import PageCapture.Browser.Simulated

/-!
# What a script leaves

`drawnFrom` follows a script through the drawings of a view: which outcome the picture is left with,
if any, and which outcomes are still to come. It is known from the outcomes in front (`upcoming`)
alone: a page that is told from a blank picture is kept as soon as it is drawn, and otherwise the
last drawing counts that has succeeded (`shownAfter`, `drawnFrom_fst`). Nothing is left exactly if
they are all failures (`shownAfter_upcoming_eq_none_iff`).
-/

set_option autoImplicit false
set_option relaxedAutoImplicit false

namespace PageCapture

/-- What the drawings of a view leave: the outcome that the picture shows, if any drawing has
succeeded, and the outcomes still to come. `tells` says whether a painted picture is told from a
blank one, and `shown?` which outcome the picture shows before. -/
def drawnFrom (tells : Bool) : (attempts : Nat) → (shown? : Option PaintOutcome) →
    List PaintOutcome → Option PaintOutcome × List PaintOutcome
  | 0, shown?, script => (shown?, script)
  | attempts + 1, shown?, script =>
    match script.headD .painted with
    | .fail => drawnFrom tells attempts shown? script.tail
    | .blank => drawnFrom tells attempts (some .blank) script.tail
    | .painted =>
      if tells then (some .painted, script.tail)
      else drawnFrom tells attempts (some .painted) script.tail

/-- A failure for each drawing leaves nothing but the rest of the script. -/
theorem drawnFrom_replicate_append (tells : Bool) (attempts : Nat) (script : List PaintOutcome) :
    drawnFrom tells attempts none (List.replicate attempts .fail ++ script) = (none, script) := by
  induction attempts with
  | zero => rfl
  | succ attempts ih => exact ih

/-! ### Reading a script -/

/-- The first outcomes of a script. Behind its end the page is drawn. -/
def upcoming : (count : Nat) → List PaintOutcome → List PaintOutcome
  | 0, _ => []
  | count + 1, script => script.headD .painted :: upcoming count script.tail

@[simp]
theorem length_upcoming (count : Nat) (script : List PaintOutcome) :
    (upcoming count script).length = count := by
  induction count generalizing script with
  | zero => rfl
  | succ count ih => rw [upcoming, List.length_cons, ih]

theorem upcoming_add (first second : Nat) (script : List PaintOutcome) :
    upcoming (first + second) script =
      upcoming first script ++ upcoming second (script.drop first) := by
  induction first generalizing script with
  | zero => rw [Nat.zero_add]; rfl
  | succ first ih => rw [Nat.succ_add, upcoming, ih, upcoming, List.cons_append, List.drop_tail]

/-- Failures stand in the script: it does not end in front of one. -/
theorem exists_append_of_upcoming {count : Nat} {script : List PaintOutcome}
    (hfails : upcoming count script = List.replicate count .fail) :
    ∃ rest, script = List.replicate count .fail ++ rest := by
  induction count generalizing script with
  | zero => exact ⟨script, rfl⟩
  | succ count ih =>
    rw [upcoming, List.replicate_succ, List.cons.injEq] at hfails
    obtain ⟨hfail, hmore⟩ := hfails
    cases script with
    | nil => cases hfail
    | cons outcome script =>
      obtain rfl : outcome = .fail := hfail
      obtain ⟨rest, rfl⟩ : ∃ rest, script = List.replicate count .fail ++ rest := ih hmore
      exact ⟨rest, rfl⟩

/-! ### What is shown -/

/-- What a picture shows after drawings with some outcomes. No drawing follows one of a page that is
told from a blank picture, and otherwise the last one that is no failure counts. -/
def shownAfter (tells : Bool) (outcomes : List PaintOutcome) : Option PaintOutcome :=
  if tells = true ∧ .painted ∈ outcomes then some .painted
  else (outcomes.filter (· ≠ .fail)).getLast?

section Drawings

variable {tells : Bool} {outcomes : List PaintOutcome}

theorem shownAfter_nil : shownAfter tells [] = none := by
  simp [shownAfter]

theorem shownAfter_fail_cons :
    shownAfter tells (.fail :: outcomes) = shownAfter tells outcomes := by
  simp [shownAfter]

/-- A picture that more drawings follow keeps what it shows if they are all failures. -/
theorem shownAfter_cons {outcome : PaintOutcome} (houtcome : outcome ≠ .fail)
    (hmore : ¬ (tells = true ∧ outcome = .painted)) :
    shownAfter tells (outcome :: outcomes) = (shownAfter tells outcomes).or (some outcome) := by
  have hpainted : (tells = true ∧ .painted ∈ outcome :: outcomes) ↔
      tells = true ∧ .painted ∈ outcomes := by
    rw [List.mem_cons]
    constructor
    · rintro ⟨htells, rfl | hmember⟩
      · exact absurd ⟨htells, rfl⟩ hmore
      · exact ⟨htells, hmember⟩
    · exact fun ⟨htells, hmember⟩ ↦ ⟨htells, .inr hmember⟩
  unfold shownAfter
  simp only [hpainted]
  split
  · rfl
  · rw [List.filter_cons_of_pos (by simpa using houtcome), List.getLast?_cons]
    cases (outcomes.filter (· ≠ .fail)).getLast? <;> rfl

theorem shownAfter_eq_none_iff :
    shownAfter tells outcomes = none ↔ ∀ outcome ∈ outcomes, outcome = .fail := by
  unfold shownAfter
  split
  · rename_i hpainted
    exact iff_of_false nofun fun hfails ↦ nomatch hfails _ hpainted.2
  · simp

/-- Nothing is shown exactly if the next outcomes are failures. -/
theorem shownAfter_upcoming_eq_none_iff {count : Nat} {script : List PaintOutcome} :
    shownAfter tells (upcoming count script) = none ↔
      upcoming count script = List.replicate count .fail := by
  rw [shownAfter_eq_none_iff, List.eq_replicate_iff, length_upcoming]
  exact (and_iff_right rfl).symm

/-- A picture does not show a failure. -/
theorem shownAfter_ne_fail {shown : PaintOutcome}
    (hshown : shownAfter tells outcomes = some shown) : shown ≠ .fail := by
  unfold shownAfter at hshown
  split at hshown
  · rw [← Option.some.inj hshown]
    exact nofun
  · simpa using (List.mem_filter.mp (List.mem_of_getLast? hshown)).2

/-- A picture that is told from others shows the page exactly if a drawing does, and is blank
otherwise. -/
theorem shown_of_tells {shown : PaintOutcome} (hshown : shownAfter true outcomes = some shown) :
    shown = if .painted ∈ outcomes then .painted else .blank := by
  have hsome := shownAfter_ne_fail hshown
  unfold shownAfter at hshown
  split at hshown
  · rename_i hpainted
    rw [if_pos hpainted.2]
    exact (Option.some.inj hshown).symm
  · rename_i hpainted
    have hmember := (List.mem_filter.mp (List.mem_of_getLast? hshown)).1
    rw [if_neg fun hmore ↦ hpainted ⟨rfl, hmore⟩]
    cases shown with
    | fail => exact absurd rfl hsome
    | blank => rfl
    | painted => exact absurd ⟨rfl, hmember⟩ hpainted

/-- A picture that is not told from others shows what the last drawing has left that is no
failure. -/
theorem shownAfter_false :
    shownAfter false outcomes = (outcomes.filter (· ≠ .fail)).getLast? :=
  if_neg fun hpainted ↦ Bool.false_ne_true hpainted.1

end Drawings

/-- The drawings of a view show what the outcomes say. -/
theorem drawnFrom_fst (tells : Bool) (attempts : Nat) (shown? : Option PaintOutcome)
    (script : List PaintOutcome) :
    (drawnFrom tells attempts shown? script).1 =
      (shownAfter tells (upcoming attempts script)).or shown? := by
  induction attempts generalizing shown? script with
  | zero => rw [drawnFrom, upcoming, shownAfter_nil, Option.none_or]
  | succ attempts ih =>
    have hblank : PaintOutcome.blank ≠ .fail := nofun
    have hpainted : PaintOutcome.painted ≠ .fail := nofun
    rw [drawnFrom, upcoming]
    cases hnext : script.headD .painted with
    | fail => rw [shownAfter_fail_cons, ih]
    | blank => rw [shownAfter_cons hblank (by simp), Option.or_assoc, Option.some_or, ih]
    | painted =>
      cases tells with
      | true =>
        have htold : shownAfter true (.painted :: upcoming attempts script.tail) = some .painted :=
          if_pos ⟨rfl, List.mem_cons_self⟩
        rw [htold]
        rfl
      | false =>
        rw [shownAfter_cons hpainted (by simp), Option.or_assoc, Option.some_or]
        exact ih (some .painted) script.tail

/-- Drawing leaves a picture unless the script begins with a failure for each drawing. -/
theorem drawnFrom_of_not_prefix (tells : Bool) {attempts : Nat} {script : List PaintOutcome}
    (hscript : ¬ List.replicate attempts .fail <+: script) :
    ∃ outcome, (drawnFrom tells attempts none script).1 = some outcome ∧ outcome ≠ .fail := by
  rw [drawnFrom_fst, Option.or_none]
  cases hshown : shownAfter tells (upcoming attempts script) with
  | none =>
    obtain ⟨rest, rfl⟩ := exists_append_of_upcoming (shownAfter_upcoming_eq_none_iff.mp hshown)
    exact absurd (List.prefix_append _ rest) hscript
  | some outcome => exact ⟨outcome, rfl, shownAfter_ne_fail hshown⟩

end PageCapture
