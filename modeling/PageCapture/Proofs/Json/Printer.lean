import PageCapture.Screenshot.Response

/-!
# Printed JSON

The characters that JSON is written with. Inside a string literal every control character is
escaped, so that a literal has none, whatever its text is (`literal_printable`). The line of a
response consists of its literals, of the number of its status and of punctuation, and has no
control character either (`Response.line_printable`): it is one line.
-/

set_option autoImplicit false
set_option relaxedAutoImplicit false

namespace PageCapture

namespace Json

theorem digit_printable (n : Nat) : 0x20 ≤ (Hexadecimal.digit n).toNat := by
  have hall : ∀ k : Fin 16, 0x20 ≤ (Nat.digitChar k).toNat := by decide
  exact hall ⟨n % 16, Nat.mod_lt n (by decide)⟩

/-- What stands for a character inside a literal has no control character. -/
theorem escape_printable (c : Char) : ∀ d ∈ escape c, 0x20 ≤ d.toNat := by
  have hhigh := digit_printable (c.toNat / 16)
  have hlow := digit_printable c.toNat
  have hall : (escape c).all (fun d ↦ decide (0x20 ≤ d.toNat)) = true := by
    unfold escape
    repeat' split
    case isFalse.isFalse.isFalse.isFalse.isFalse.isFalse.isFalse.isTrue =>
      simp [hhigh, hlow]
    case isFalse.isFalse.isFalse.isFalse.isFalse.isFalse.isFalse.isFalse hplain =>
      simpa using hplain
    all_goals rfl
  simpa using hall

/-- A literal has no control character. -/
theorem literal_printable (text : String) : ∀ d ∈ literal text, 0x20 ≤ d.toNat := by
  intro d hd
  rw [literal, List.mem_cons, List.mem_append, List.mem_flatMap, List.mem_singleton] at hd
  rcases hd with rfl | ⟨c, -, hd⟩ | rfl
  · decide
  · exact escape_printable c d hd
  · decide

end Json

theorem Status.code_printable (status : Status) :
    ∀ d ∈ Decimal.characters status.code, 0x20 ≤ d.toNat := by
  have hall : (Decimal.characters status.code).all (fun d ↦ decide (0x20 ≤ d.toNat)) = true := by
    cases status <;> rfl
  simpa using hall

/-- The line of a response has no control character, whatever its texts hold. -/
theorem Response.line_printable (response : Response) :
    ∀ d ∈ response.line.toList, 0x20 ≤ d.toNat := by
  have hliteral := Json.literal_printable
  have hcode := Status.code_printable
  rw [line, Json.write, String.toList_ofList]
  -- What is left besides the literals and the number is punctuation.
  rcases response with value | ⟨status, message⟩
  · simp only [datum, Json.characters, Json.membersAfter, List.forall_mem_cons,
      List.forall_mem_append]
    refine ⟨by decide, hliteral _, by decide, hcode _, by decide, hliteral _, by decide, hliteral _,
      by decide, ?_⟩
    exact nofun
  · simp only [datum, Json.characters, Json.membersAfter, List.forall_mem_cons,
      List.forall_mem_append]
    refine ⟨by decide, hliteral _, by decide, hcode _, by decide, hliteral _, by decide,
      ⟨by decide, hliteral _, by decide, hliteral _, by decide, hliteral _, by decide, hliteral _,
        by decide, ?_⟩, by decide, ?_⟩
    · exact nofun
    · exact nofun

end PageCapture
