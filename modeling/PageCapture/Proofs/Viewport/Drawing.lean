import PageCapture.Proofs.Bitmap.Uniform
import PageCapture.Proofs.Host.Transcript
import PageCapture.Proofs.Host.Tries
import PageCapture.Screenshot.Capture

/-!
# What drawing a view does

A window is drawn in front of a host that may refuse any of the drawings and may put any pixels into
the bitmap; it only leaves the shape of the bitmap as it is. `drawView_prints` says what happens
then: the drawings follow one another in one and the same bitmap, they end with the first that is
accepted or with the third, behind each of the others the window is painted anew, and the bitmap is
given out as it stands in the end if any drawing has succeeded, a refused one at the end
notwithstanding.

`Prints` ties the exchanges to what came of the drawings, and `Printed.Accepted` says when one is
accepted: it has succeeded, and the sample is not uniform. The number of drawings is that of
`Tries`. The step is `print_answers`, the loop `drawFrom_prints`, by induction on the attempts that
are left.
-/

set_option autoImplicit false
set_option relaxedAutoImplicit false

namespace PageCapture

variable {σ : Type}

/-! ### Drawings that are accepted -/

/-- What comes of a drawing: whether the host has drawn, and the bitmap as it stands then. -/
abbrev Printed : Type := Except HostError Unit × Bitmap

namespace Printed

/-- Whether the host has drawn. -/
def succeeded (printed : Printed) : Bool := printed.1.isOk

/-- The host has drawn, and the sample is not uniform. -/
def Accepted (sample : Size) (printed : Printed) : Prop :=
  printed.succeeded = true ∧ ¬ printed.2.Uniform sample

/-- The bitmap as it stands after some drawings into it. -/
def standing (bitmap : Bitmap) (prints : List Printed) : Bitmap :=
  (prints.getLast?.map Prod.snd).getD bitmap

theorem standing_cons (bitmap : Bitmap) (printed : Printed) (rest : List Printed) :
    standing bitmap (printed :: rest) = standing printed.2 rest := by
  unfold standing
  rw [List.getLast?_cons]
  cases rest.getLast? <;> rfl

end Printed

/-! ### The exchanges of drawings -/

/-- The exchanges of drawings one after the other: each is into the bitmap that the one before has
left, and behind each that is not accepted the window is painted anew. -/
inductive Prints (handle : WindowHandle) (sample : Size) :
    Bitmap → List Printed → List Exchange → Prop
  | nil {bitmap : Bitmap} : Prints handle sample bitmap [] []
  | accepted {bitmap : Bitmap} {printed : Printed} (haccepted : printed.Accepted sample) :
    Prints handle sample bitmap [printed] [.print handle bitmap printed]
  | refused {bitmap : Bitmap} {printed : Printed} {rest : List Printed} {since : List Exchange}
      (hrefused : ¬ printed.Accepted sample) (hrest : Prints handle sample printed.2 rest since) :
    Prints handle sample bitmap (printed :: rest)
      (.print handle bitmap printed :: .redraw handle :: since)

/-- Where a refused drawing leaves the bitmap as it is, the bitmap shows the last one that has
succeeded. -/
theorem Prints.standing_eq {handle : WindowHandle} {sample : Size} {bitmap : Bitmap}
    {prints : List Printed} {since : List Exchange}
    (hprints : Prints handle sample bitmap prints since)
    (hkept : ∀ before error after, .print handle before (.error error, after) ∈ since →
      after = before) :
    Printed.standing bitmap prints =
      Printed.standing bitmap (prints.filter Printed.succeeded) := by
  induction hprints with
  | nil => rfl
  | accepted haccepted => rw [List.filter_cons_of_pos haccepted.1, List.filter_nil]
  | @refused bitmap printed rest since hrefused hrest ih =>
    have hlater := ih fun before error after hmem ↦
      hkept before error after (List.mem_cons_of_mem _ (List.mem_cons_of_mem _ hmem))
    rw [Printed.standing_cons, hlater]
    rcases printed with ⟨error | _, after⟩
    · have hsame : after = bitmap := hkept bitmap error after (List.mem_cons_self ..)
      rw [List.filter_cons_of_neg (by simp [Printed.succeeded, Except.isOk, Except.toBool]), hsame]
    · rw [List.filter_cons_of_pos (by rfl), Printed.standing_cons]

/-! ### Drawing in front of a host -/

section Formats

variable {windows : WindowSystem σ} {handle : WindowHandle} {size sample : Size}
  {format : PixelFormat} {start middle : σ}
  (hformat : windows.pixelFormat.results start = (.ok format, middle))

include hformat

/-- Where there is no bitmap of the size, nothing is drawn. -/
theorem results_drawView_of_none
    (hblank : Bitmap.blank? size.width size.height format = none) :
    (drawView windows handle size sample).results start = (.ok none, middle) := by
  simp [drawView, Action.bind_results, hformat, hblank]

theorem results_drawView_of_some {blank : Bitmap}
    (hblank : Bitmap.blank? size.width size.height format = some blank) :
    (drawView windows handle size sample).results start =
      (drawFrom windows handle sample drawAttempts false blank).results middle := by
  simp [drawView, Action.bind_results, hformat, hblank]

end Formats

section Host

variable {host : Host σ} {handle : WindowHandle}
  (hprint : ∀ bitmap, Action.Gives (fun _ ↦ True) (host.print handle bitmap)
    fun printed _ ↦ printed.2.SameShape bitmap)
  (hredraw : (host.redraw handle).Answers)

include hprint

/-- A drawing is answered and noted; what it may have changed of the bitmap is the pixels. -/
theorem print_answers (bitmap : Bitmap) (transcript : Transcript σ) :
    ∃ printed state, (host.transcribed.print handle bitmap).results transcript =
        (.ok printed, ⟨state, transcript.exchanges ++ [.print handle bitmap printed]⟩) ∧
      printed.2.SameShape bitmap := by
  obtain ⟨printed, state, hends, hshape⟩ := hprint bitmap transcript.host trivial
  refine ⟨printed, state, ?_, hshape⟩
  change (Transcript.noting _ _).results transcript = _
  simp only [Transcript.noting, Action.results_ofResults, hends]

include hredraw

/-- Drawing until the sample is not uniform. -/
theorem drawFrom_prints (sample : Size) (attempts : Nat) (drawn : Bool) {bitmap : Bitmap}
    (hbitmap : bitmap.Drawable) (start : Transcript σ) :
    ∃ prints since last,
      (drawFrom host.transcribed.toWindowSystem handle sample attempts drawn bitmap).results start =
        (.ok (if drawn || prints.any Printed.succeeded then some (Printed.standing bitmap prints)
          else none), last) ∧
      last.exchanges = start.exchanges ++ since ∧ Prints handle sample bitmap prints since ∧
      Tries (Printed.Accepted sample) attempts prints ∧
      ∀ printed ∈ prints, printed.2.SameShape bitmap := by
  induction attempts generalizing drawn bitmap start with
  | zero =>
    refine ⟨[], [], start, ?_, by simp, .nil, .spent, by simp⟩
    cases drawn <;> rfl
  | succ attempts ih =>
    obtain ⟨printed, state, hends, hshape⟩ := print_answers hprint bitmap start
    have hprinted : printed.2.Drawable := hbitmap.of_sameShape hshape
    obtain ⟨uniform, huniform, hiff⟩ := hprinted.isUniform_iff sample
    -- What follows a drawing that is not accepted: the window is painted anew and drawn again.
    have hagain : ∀ drawn, ¬ Printed.Accepted sample printed → ∃ rest since last,
        (do host.transcribed.redraw handle
            drawFrom host.transcribed.toWindowSystem handle sample attempts drawn printed.2 :
          Action (Transcript σ) (Option Bitmap)).results
            ⟨state, start.exchanges ++ [.print handle bitmap printed]⟩ =
          (.ok (if drawn || rest.any Printed.succeeded then
            some (Printed.standing bitmap (printed :: rest)) else none), last) ∧
        last.exchanges = start.exchanges ++ since ∧
        Prints handle sample bitmap (printed :: rest) since ∧
        Tries (Printed.Accepted sample) (attempts + 1) (printed :: rest) ∧
        ∀ one ∈ printed :: rest, one.2.SameShape bitmap := by
      intro drawn hrefused
      obtain ⟨_, painted, hpainted⟩ := Transcript.results_noting (fun _ ↦ .redraw handle) hredraw
        ⟨state, start.exchanges ++ [.print handle bitmap printed]⟩
      obtain ⟨rest, since, last, hrest, hsince, hprints, htries, hshapes⟩ := ih drawn hprinted
        ⟨painted, start.exchanges ++ [.print handle bitmap printed] ++ [.redraw handle]⟩
      refine ⟨rest, _, last, ?_, ?_, .refused hrefused hprints, .refused hrefused htries, ?_⟩
      · rw [Action.bind_results, show (host.transcribed.redraw handle).results _ = _ from hpainted]
        simp only
        rw [hrest, Printed.standing_cons]
      · rw [hsince]
        simp
      · intro one hone
        rcases List.mem_cons.mp hone with rfl | hlater
        · exact hshape
        · exact (hshapes one hlater).trans hshape
    unfold drawFrom
    rw [Action.bind_results, hends]
    rcases printed with ⟨error | _, image⟩
    · have hrefused : ¬ Printed.Accepted sample (.error error, image) := by
        intro haccepted
        cases haccepted.1
      obtain ⟨rest, since, last, hrest, hsince, hprints, htries, hshapes⟩ := hagain drawn hrefused
      exact ⟨_, since, last, hrest, hsince, hprints, htries, hshapes⟩
    · simp only
      rw [Action.bind_results, Action.results_check, huniform]
      by_cases hsame : uniform = true
      · have hrefused : ¬ Printed.Accepted sample (.ok (), image) := by
          intro haccepted
          exact haccepted.2 (hiff.mp hsame)
        obtain ⟨rest, since, last, hrest, hsince, hprints, htries, hshapes⟩ := hagain true hrefused
        refine ⟨_, since, last, ?_, hsince, hprints, htries, hshapes⟩
        simp only [hsame, if_true]
        rw [hrest]
        simp [Printed.succeeded, Except.isOk, Except.toBool]
      · have haccepted : Printed.Accepted sample (.ok (), image) :=
          ⟨rfl, fun huniform ↦ hsame (hiff.mpr huniform)⟩
        refine ⟨[(.ok (), image)], [.print handle bitmap (.ok (), image)],
          ⟨state, start.exchanges ++ [.print handle bitmap (.ok (), image)]⟩, ?_, rfl,
          .accepted haccepted, .accepted haccepted, by simpa using hshape⟩
        rw [Bool.not_eq_true] at hsame
        simp [hsame, Printed.succeeded, Printed.standing, Except.isOk, Except.toBool]

/-- Drawing a view in front of any host that answers and leaves the shape of the bitmap as it is. A
view of a size that there is no bitmap of is not drawn at all. Any other is drawn into one bitmap
until a drawing is accepted, three times at the most, and given out as it stands then if any drawing
has succeeded; where the refused drawings leave the bitmap as it is, this is what the last one that
has succeeded shows. -/
theorem drawView_prints (hformat : host.pixelFormat.Answers) (size sample : Size)
    (start : Transcript σ) :
    ∃ format image? last,
      (drawView host.transcribed.toWindowSystem handle size sample).results start =
        (.ok image?, last) ∧
      (size.width < 1 ∨ size.height < 1 → Bitmap.blank? size.width size.height format = none) ∧
      (Bitmap.blank? size.width size.height format = none →
        image? = none ∧ last.exchanges = start.exchanges ++ [.pixelFormat format]) ∧
      ∀ blank, Bitmap.blank? size.width size.height format = some blank → ∃ prints since,
        last.exchanges = start.exchanges ++ .pixelFormat format :: since ∧
        Prints handle sample blank prints since ∧
        Tries (Printed.Accepted sample) 3 prints ∧
        (∀ printed ∈ prints, printed.2.SameShape blank) ∧
        image? = (if prints.any Printed.succeeded then prints.getLast?.map Prod.snd else none) ∧
        ((∀ before error after, .print handle before (.error error, after) ∈ since →
          after = before) →
          image? = (prints.filter Printed.succeeded).getLast?.map Prod.snd) := by
  obtain ⟨format, state, hnoted⟩ := Transcript.results_noting Exchange.pixelFormat hformat start
  have hpixels : host.transcribed.toWindowSystem.pixelFormat.results start =
      (.ok format, ⟨state, start.exchanges ++ [.pixelFormat format]⟩) := hnoted
  have hsmall : size.width < 1 ∨ size.height < 1 →
      Bitmap.blank? size.width size.height format = none := by
    intro hsmall
    unfold Bitmap.blank?
    exact if_pos (by rw [← or_assoc]; exact .inl hsmall)
  rcases hblank : Bitmap.blank? size.width size.height format with _ | blank
  · refine ⟨format, none, ⟨state, start.exchanges ++ [.pixelFormat format]⟩,
      results_drawView_of_none hpixels hblank, fun _ ↦ hblank, fun _ ↦ ⟨rfl, rfl⟩, ?_⟩
    intro blank hsome
    rw [hblank] at hsome
    cases hsome
  · obtain ⟨prints, since, last, hends, hsince, hprints, htries, hshapes⟩ :=
      drawFrom_prints hprint hredraw sample drawAttempts false (Bitmap.drawable_of_blank? hblank)
        ⟨state, start.exchanges ++ [.pixelFormat format]⟩
    -- Something is drawn, so that the bitmap in the end is the one behind the last drawing.
    obtain ⟨ending, hending⟩ : ∃ ending, prints.getLast? = some ending :=
      ⟨_, List.getLast?_eq_some_getLast (htries.ne_nil (by decide))⟩
    have himage : (if prints.any Printed.succeeded then some (Printed.standing blank prints)
        else none) =
          if prints.any Printed.succeeded then prints.getLast?.map Prod.snd else none := by
      simp only [Printed.standing, hending, Option.map_some, Option.getD_some]
    refine ⟨format, _, last, (results_drawView_of_some hpixels hblank).trans hends, hsmall, ?_, ?_⟩
    · intro hnone
      rw [hblank] at hnone
      cases hnone
    · intro model hmodel
      obtain rfl : blank = model := Option.some.inj (hblank.symm.trans hmodel)
      refine ⟨prints, since, by rw [hsince, List.append_assoc]; rfl, hprints, htries, hshapes,
        by simpa only [Bool.false_or] using himage, ?_⟩
      intro hkept
      rw [hprints.standing_eq hkept, Bool.false_or]
      by_cases hany : prints.any Printed.succeeded = true
      · obtain ⟨printed, hmem, hsucceeded⟩ := List.any_eq_true.mp hany
        have hsome : prints.filter Printed.succeeded ≠ [] :=
          List.ne_nil_of_mem (List.mem_filter.mpr ⟨hmem, hsucceeded⟩)
        rw [if_pos hany, Printed.standing, List.getLast?_eq_some_getLast hsome]
        rfl
      · rw [if_neg hany, List.filter_eq_nil_iff.mpr]
        · rfl
        · intro printed hmem hsucceeded
          exact hany (List.any_eq_true.mpr ⟨printed, hmem, hsucceeded⟩)

end Host

/-- A host whose drawings fail over a bitmap of zeros, which they leave with some other pixels, and
succeed over any other. -/
def Host.scribbling : Host Unit :=
  { Host.longPage with
    print := fun _ bitmap ↦
      if bitmap.data.all (· == 0) then
        return (.error (.call "PrintWindow" "busy"),
          { bitmap with data := bitmap.data.mapIdx fun place _ ↦ place.toUInt8 })
      else return (.ok (), bitmap) }

/-- The law for two pixels of the window of such a host, which is drawn twice. -/
theorem drawView_prints_scribbling :
    (∃ format image? last,
      (drawView Host.scribbling.transcribed.toWindowSystem ⟨2⟩ ⟨2, 1⟩ ⟨2, 1⟩).results ⟨(), []⟩ =
        (.ok image?, last) ∧
      ∀ blank, Bitmap.blank? 2 1 format = some blank → ∃ prints since,
        last.exchanges = .pixelFormat format :: since ∧
        Prints ⟨2⟩ ⟨2, 1⟩ blank prints since ∧
        Tries (Printed.Accepted ⟨2, 1⟩) 3 prints ∧
        image? = if prints.any Printed.succeeded then prints.getLast?.map Prod.snd else none) ∧
    ((drawView Host.scribbling.transcribed.toWindowSystem ⟨2⟩ ⟨2, 1⟩ ⟨2, 1⟩).results
      ⟨(), []⟩).2.exchanges.filterMap Exchange.call? =
        [.print ⟨2⟩ 2 1, .redraw ⟨2⟩, .print ⟨2⟩ 2 1] := by
  have hprint : ∀ bitmap, Action.Gives (fun _ ↦ True) (Host.scribbling.print ⟨2⟩ bitmap)
      fun printed _ ↦ printed.2.SameShape bitmap := by
    intro bitmap state _
    by_cases hzero : bitmap.data.all (· == 0) = true
    · refine ⟨_, state, by simp only [Host.scribbling, hzero, if_true]; rfl, ?_⟩
      exact ⟨rfl, rfl, rfl, Array.size_mapIdx⟩
    · exact ⟨_, state, by simp only [Host.scribbling, if_neg hzero]; rfl, .refl bitmap⟩
  refine ⟨?_, by decide +kernel⟩
  obtain ⟨format, image?, last, hends, -, -, hdrawn⟩ := drawView_prints hprint
    (fun state ↦ ⟨(), state, rfl⟩) (fun state ↦ ⟨.bgra, state, rfl⟩) ⟨2, 1⟩ ⟨2, 1⟩ ⟨(), []⟩
  refine ⟨format, image?, last, hends, ?_⟩
  intro blank hblank
  obtain ⟨prints, since, hsince, hprints, htries, -, himage, -⟩ := hdrawn blank hblank
  exact ⟨prints, since, hsince, hprints, htries, himage⟩

end PageCapture
