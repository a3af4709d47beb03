import PageCapture.Proofs.Base64.Canonical
import PageCapture.Proofs.CommandLine.Simulation
import PageCapture.Proofs.Json.RoundTrip

/-!
# The printed line tells the response

Delivering a response prints its line and a line break, whatever becomes of the picture
(`deliver_printed`). The line is JSON and holds the response as it is sent (`Response.line_tells`),
so that two responses are never printed alike: a success carries a text where an error carries a
record, and the number of an error tells its status, that of a success among them
(`Response.datum_injective`).
-/

set_option autoImplicit false
set_option relaxedAutoImplicit false

namespace PageCapture

open Machine

/-! ### Printing -/

/-- Whatever comes of writing a picture, nothing is printed. -/
theorem writePicture_printed (config : Config) (file text : String) (machine : Machine) :
    ((writePicture environment config file text).run.run machine).2.printed =
      machine.printed := by
  rcases hread : Base64.decode text with error | contents
  · have hhome : environment.home?.run machine = (machine.home?, machine) := rfl
    unfold writePicture
    rw [Program.run_bind_of_ok (Program.run_lift hhome)]
    simp only [hread]
    rfl
  · obtain rfl := Base64.decode_eq_ok_iff.mp hread
    obtain ⟨ended, last, hrun, hdelivery⟩ :=
      Program.writePicture_delivers config file contents machine
    rw [hrun]
    exact hdelivery.printed_eq

/-- Delivering a response prints its line, and nothing else. -/
theorem deliver_printed (config : Config) (output? : Option String) (response : Response)
    (machine : Machine) :
    ((Program.deliver environment config output? response).run.run machine).2.printed =
      machine.printed ++ (response.line ++ "\n") := by
  have hprint : (environment.print (response.line ++ "\n")).run machine =
      ((), machine.showing response) := rfl
  rcases response with value | ⟨status, message⟩
  · unfold Program.deliver
    simp only
    rw [Program.run_bind_of_ok (Program.run_lift hprint)]
    rcases output? with _ | file
    · rfl
    · by_cases hempty : value = ""
      · simp only [hempty, if_true]
        rfl
      · simp only [hempty, if_false]
        obtain ⟨ended, last, hwrite⟩ : ∃ ended last,
            (writePicture environment config file value).run.run
              (machine.showing (.success value)) = (ended, last) := ⟨_, _, rfl⟩
        have hprinted := writePicture_printed config file value (machine.showing (.success value))
        rw [hwrite] at hprinted
        rw [Program.run_discard (Program.run_orFail hwrite)]
        exact hprinted
  · unfold Program.deliver
    simp only
    rw [Program.run_bind_of_ok (Program.run_lift hprint)]
    rfl

/-! ### What a line holds -/

theorem Status.code_injective {status other : Status} (hcode : status.code = other.code) :
    status = other := by
  cases status <;> cases other <;> first | rfl | cases hcode

namespace Response

theorem datum_plain (response : Response) : response.datum.Plain := by
  rcases response with value | ⟨status, message⟩ <;> simp [datum]

/-- Responses that are sent alike are the same. -/
theorem datum_injective {response other : Response} (hdatum : response.datum = other.datum) :
    response = other := by
  rcases response with value | ⟨status, message⟩ <;>
    rcases other with value' | ⟨status', message'⟩ <;>
    simp only [datum, Datum.record.injEq, List.cons.injEq, Prod.mk.injEq, Datum.text.injEq,
      Datum.integer.injEq, Int.ofNat_inj, true_and, and_true, reduceCtorEq, and_false] at hdatum
  · rw [hdatum]
  · obtain ⟨hcode, -, hmessage⟩ := hdatum
    rw [Status.code_injective hcode, hmessage]

/-- The line that is printed for a response tells the response. It is all that delivering the
response prints, with a line break behind it; it has no control character and so is a single line;
it is JSON that holds the response as it is sent; and no other response has the same line. -/
theorem line_tells (response : Response) :
    (∀ (config : Config) (output? : Option String) (machine : Machine),
      ((Program.deliver environment config output? response).run.run machine).2.printed =
        machine.printed ++ (response.line ++ "\n")) ∧
      (∀ c ∈ response.line.toList, 0x20 ≤ c.toNat) ∧
      Json.read? response.line = some response.datum ∧
      ∀ other : Response, other.line = response.line → other = response := by
  refine ⟨fun config output? machine ↦ deliver_printed config output? response machine,
    response.line_printable, Json.read?_write response.datum_plain, ?_⟩
  intro other hline
  exact datum_injective (Json.write_injective other.datum_plain response.datum_plain hline)

/-- The law for an error that has the number of a success and a message of a quote, a backslash, a
line break and another control character. -/
theorem line_tells_escaped :
    '\\' ∈ (error .success "\"\\\n\x01").line.toList ∧ 0x20 ≤ '\\'.toNat ∧
      Json.read? (error .success "\"\\\n\x01").line = some (.record [("status", .integer 0),
        ("value", .record [("error", .text "success"), ("message", .text "\"\\\n\x01")])]) ∧
      (success "\"\\\n\x01").line ≠ (error .success "\"\\\n\x01").line := by
  obtain ⟨-, hprintable, hread, hunique⟩ := line_tells (error .success "\"\\\n\x01")
  have hslash : '\\' ∈ (error .success "\"\\\n\x01").line.toList := by decide +kernel
  refine ⟨hslash, hprintable _ hslash, hread, ?_⟩
  intro hline
  cases hunique _ hline

end Response

end PageCapture
