import PageCapture.Action

/-!
# Checked computations

A computation that checks its steps ends with an error at the first that fails. So a value tells of
every step (`exists_of_bind`), and values for all items of a list give one for the list
(`mapM_of_forall`). `Checked.exists_length` says when an integer is a length. `OnlyOverflows` is the
class of the computations in which nothing else can go wrong than a length leaving its range.
-/

set_option autoImplicit false
set_option relaxedAutoImplicit false

namespace PageCapture

variable {ε α β : Type}

/-- A computation with a value has one for each of its steps. -/
theorem exists_of_bind {computed : Except ε α} {next : α → Except ε β} {value : β}
    (hvalue : computed >>= next = .ok value) :
    ∃ middle, computed = .ok middle ∧ next middle = .ok value := by
  cases computed with
  | error error => cases hvalue
  | ok middle => exact ⟨middle, rfl, hvalue⟩

/-- Where there is a value for every item of a list, there is the list of these values. -/
theorem mapM_of_forall {make : α → Except ε β} {value : α → β} {items : List α}
    (hmake : ∀ item ∈ items, make item = .ok (value item)) :
    items.mapM make = .ok (items.map value) := by
  induction items with
  | nil => rfl
  | cons item items ih =>
    rw [List.forall_mem_cons] at hmake
    rw [List.mapM_cons, hmake.1, ih hmake.2]
    rfl

/-- What is made of the items of a list depends on what is made of each. -/
theorem mapM_congr_left {make other : α → Except ε β} {items : List α}
    (hmake : ∀ item ∈ items, make item = other item) : items.mapM make = items.mapM other := by
  induction items with
  | nil => rfl
  | cons item items ih =>
    rw [List.forall_mem_cons] at hmake
    rw [List.mapM_cons, List.mapM_cons, hmake.1, ih hmake.2]

/-- An integer within range is a length. -/
theorem Checked.exists_length (operation : Operation) {n : Int} (hlow : -2147483648 ≤ n)
    (hhigh : n < 2147483648) : ∃ c, Checked.length operation n = .ok c ∧ c.toInt = n :=
  ⟨Int32.ofInt n, if_pos ⟨hlow, hhigh⟩, Int32.toInt_ofInt_of_le hlow hhigh⟩

/-! ### Computations that only overflow -/

/-- A checked computation that meets no other fault than an overflow. -/
def OnlyOverflows (computed : Except Fault α) : Prop :=
  ∀ fault, computed = .error fault → ∃ operation, fault = .overflow operation

theorem OnlyOverflows.ok (value : α) : OnlyOverflows (.ok value) :=
  fun _ hfault ↦ by cases hfault

theorem OnlyOverflows.bind {computed : Except Fault α} {next : α → Except Fault β}
    (hfirst : OnlyOverflows computed) (hnext : ∀ value, OnlyOverflows (next value)) :
    OnlyOverflows (computed >>= next) := by
  cases computed with
  | error error =>
    intro fault hfault
    exact hfirst fault (by rw [Except.error.inj hfault])
  | ok value => exact hnext value

theorem Checked.length_onlyOverflows (operation : Operation) (n : Int) :
    OnlyOverflows (Checked.length operation n) := by
  unfold Checked.length
  split
  · exact .ok _
  · intro fault hfault
    exact ⟨operation, (Except.error.inj hfault).symm⟩

end PageCapture
