/-!
# Tries

A capture does not take the first reply of a host for granted: a window is drawn again, and a layout
is read again, until what comes is accepted. `Tries` is the law of such a loop, said of the list of
what came: nothing in front of the last one was accepted, and the last one was, unless the tries
were used up. So the number of tries is the place of the first accepted one, or the limit where
there is none.

A list of tries is built from the back, as the loops are: by the accepted one (`Tries.accepted`) or
by nothing where no tries are left (`Tries.spent`), and by a refused one in front of what follows
(`Tries.refused`).
-/

set_option autoImplicit false
set_option relaxedAutoImplicit false

namespace PageCapture

variable {α : Type}

/-- What came of tries that end with the first accepted one, or when the limit is reached. -/
structure Tries (Accepted : α → Prop) (limit : Nat) (tries : List α) : Prop where
  length_le : tries.length ≤ limit
  /-- None but the last is accepted. -/
  early : ∀ one ∈ tries.dropLast, ¬ Accepted one
  /-- They go on until one is accepted. -/
  stop : tries.length = limit ∨ ∃ last, tries.getLast? = some last ∧ Accepted last

namespace Tries

variable {Accepted : α → Prop} {limit : Nat}

theorem spent : Tries Accepted 0 [] :=
  ⟨Nat.le_refl 0, by simp, .inl rfl⟩

theorem accepted {one : α} (hone : Accepted one) : Tries Accepted (limit + 1) [one] :=
  ⟨by simp, by simp, .inr ⟨one, rfl, hone⟩⟩

/-- Behind one that is not accepted the tries go on. -/
theorem refused {one : α} {rest : List α} (hone : ¬ Accepted one)
    (hrest : Tries Accepted limit rest) : Tries Accepted (limit + 1) (one :: rest) := by
  obtain ⟨hlength, hearly, hstop⟩ := hrest
  refine ⟨by simpa using hlength, ?_, ?_⟩
  · intro another hanother
    by_cases hrest : rest = []
    · simp [hrest] at hanother
    · rw [List.dropLast_cons_of_ne_nil hrest, List.mem_cons] at hanother
      rcases hanother with rfl | hlater
      · exact hone
      · exact hearly another hlater
  · rcases hstop with hlimit | ⟨last, hlast, haccepted⟩
    · exact .inl (by simp [hlimit])
    · refine .inr ⟨last, ?_, haccepted⟩
      rw [List.getLast?_cons, hlast]
      rfl

/-- Where something may be tried, something is. -/
theorem ne_nil {tries : List α} (htries : Tries Accepted limit tries) (hlimit : limit ≠ 0) :
    tries ≠ [] := by
  rintro rfl
  rcases htries.stop with hempty | ⟨last, hlast, -⟩
  · exact hlimit hempty.symm
  · cases hlast

end Tries

end PageCapture
