/-!
# Faults, checked arithmetic and actions

A fault is a step that has no result: arithmetic that leaves the range of its numbers, or a piece
of pixel data that is not there. It stops the computation it happens in, but not the world around
it: whatever a host was told before the fault stays told. `Fault` lists the kinds, and
`Fault.message?` gives the wording of those that have one. The domain's own failures, a window that
is gone or a page that cannot be drawn, are no faults: they are ordinary values of `HostError` and
`CaptureError`.

Lengths are 32-bit signed numbers and positions in pixel data are 64-bit unsigned ones. A sum,
difference or product that leaves its range is a fault, never a wrapped number. The two saturating
operations that the page geometry needs are here as well. Each operation is tied to the integers:
`Checked.add_eq_ok_iff` and `Checked.subtract_eq_ok_iff` say exactly when there is a result and
which one, `toInt_saturatingAdd` and `toInt_max` what the saturating sum and the maximum are.

An action asks things of a world with states `σ`. It ends with a value or with a fault, and either
way in a state of the world: what was done before a fault stays done. `Action.bind_results` is the
rule by which actions are followed one after the other.
-/

set_option autoImplicit false
set_option relaxedAutoImplicit false

namespace PageCapture

/-! ### Faults -/

/-- The arithmetic operations whose result can leave its range. -/
inductive Operation where
  | add
  | subtract
  | multiply
  deriving DecidableEq, Repr

/-- The kinds of a step without a result. -/
inductive Fault where
  /-- A sum, difference or product outside the range of its numbers. -/
  | overflow (operation : Operation)
  /-- A piece of the pixel data that reaches past its end. -/
  | outOfBounds
  /-- Pixel data cut into rows of no bytes. -/
  | zeroStride
  /-- A number to be brought between two bounds of which the lower is the greater. -/
  | invertedRange
  deriving DecidableEq, Repr

/-- The verb that names an operation in a message. -/
def Operation.verb : Operation → String
  | .add => "add"
  | .subtract => "subtract"
  | .multiply => "multiply"

/-- The wording of a fault: only an overflow has one. -/
def Fault.message? : Fault → Option String
  | .overflow operation => some ("attempt to " ++ operation.verb ++ " with overflow")
  | _ => none

/-! ### Checked arithmetic -/

namespace Checked

/-- The length that an integer is, if it is one. -/
def length (operation : Operation) (n : Int) : Except Fault Int32 :=
  if -2147483648 ≤ n ∧ n < 2147483648 then .ok (Int32.ofInt n) else .error (.overflow operation)

/-- The sum of two lengths. -/
def add (a b : Int32) : Except Fault Int32 := length .add (a.toInt + b.toInt)

/-- The difference of two lengths. -/
def subtract (a b : Int32) : Except Fault Int32 := length .subtract (a.toInt - b.toInt)

/-- The number of positions that can be addressed. -/
def addressRange : Nat := 18446744073709551616

/-- The position that a natural number is, if it is one. -/
@[inline]
def position (operation : Operation) (n : Nat) : Except Fault Nat :=
  if n < addressRange then .ok n else .error (.overflow operation)

theorem length_eq_ok_iff {operation : Operation} {n : Int} {c : Int32} :
    length operation n = .ok c ↔ c.toInt = n := by
  unfold length
  split
  · rename_i hrange
    constructor
    · intro hlength
      cases hlength
      exact Int32.toInt_ofInt_of_le hrange.1 hrange.2
    · rintro rfl
      simp
  · rename_i hrange
    constructor
    · intro hlength
      cases hlength
    · rintro rfl
      exact absurd ⟨Int32.le_toInt c, Int32.toInt_lt c⟩ hrange

/-- A sum of lengths is the length whose integer is the sum. -/
theorem add_eq_ok_iff {a b c : Int32} : add a b = .ok c ↔ c.toInt = a.toInt + b.toInt :=
  length_eq_ok_iff

/-- A difference of lengths is the length whose integer is the difference. -/
theorem subtract_eq_ok_iff {a b c : Int32} :
    subtract a b = .ok c ↔ c.toInt = a.toInt - b.toInt :=
  length_eq_ok_iff

/-- A natural number is a position exactly when it is below the size of the address range. -/
theorem position_eq_ok_iff {operation : Operation} {n m : Nat} :
    position operation n = .ok m ↔ m = n ∧ n < addressRange := by
  unfold position
  split <;> rename_i hrange <;>
    simp only [Except.ok.injEq, reduceCtorEq, false_iff, hrange, and_true]
  · exact eq_comm
  · simp

end Checked

/-- The sum of two lengths, or the end of the range that it would pass. -/
def saturatingAdd (a b : Int32) : Int32 :=
  Int32.ofInt (min (max (a.toInt + b.toInt) (-2147483648)) 2147483647)

/-- `n`, or the bound that it passes; a fault when the bounds are the wrong way round. -/
def clamp (n lower upper : Int32) : Except Fault Int32 :=
  if upper < lower then .error .invertedRange
  else .ok (if n < lower then lower else if upper < n then upper else n)

theorem toInt_saturatingAdd (a b : Int32) :
    (saturatingAdd a b).toInt = min (max (a.toInt + b.toInt) (-2147483648)) 2147483647 := by
  unfold saturatingAdd
  exact Int32.toInt_ofInt_of_le (by omega) (by omega)

theorem toInt_max (a b : Int32) : (max a b).toInt = max a.toInt b.toInt := by
  change (if a ≤ b then b else a).toInt = _
  split <;> rename_i hle <;> rw [Int32.le_iff_toInt_le] at hle <;> omega

theorem toInt_min (a b : Int32) : (min a b).toInt = min a.toInt b.toInt := by
  change (if a ≤ b then a else b).toInt = _
  split <;> rename_i hle <;> rw [Int32.le_iff_toInt_le] at hle <;> omega

/-! ### Actions -/

/-- A computation over the states of a world that may end with a fault. -/
abbrev Action (σ α : Type) : Type := ExceptT Fault (StateM σ) α

namespace Action

variable {σ α β : Type}

/-- The end of an action from a state: its value or fault, and the state it leaves. -/
@[inline]
def results (action : Action σ α) (state : σ) : Except Fault α × σ := action state

/-- The action that is given by how it ends from each state. -/
@[inline]
def ofResults (ends : σ → Except Fault α × σ) : Action σ α := ends

/-- The action that ends with a value made from the state. -/
@[inline]
def inspect (view : σ → α) : Action σ α := ofResults fun state ↦ (.ok (view state), state)

/-- The action that only changes the state. -/
@[inline]
def change (next : σ → σ) : Action σ Unit := ofResults fun state ↦ (.ok (), next state)

/-- The action that ends as a checked computation does, leaving the state as it is. -/
@[inline]
def check (computed : Except Fault α) : Action σ α := ofResults fun state ↦ (computed, state)

/-- An action of a part of the world, the rest of which stays as it is. -/
@[inline]
def zoom {τ : Type} (part : σ → τ) (put : τ → σ → σ) (action : Action τ α) : Action σ α :=
  ofResults fun state ↦
    let ends := action.results (part state)
    (ends.1, put ends.2 state)

/-- Two actions one after the other: the second is left out when the first ends with a fault. -/
theorem bind_results (action : Action σ α) (next : α → Action σ β) (state : σ) :
    (action >>= next).results state =
      match action.results state with
      | (.ok value, after) => (next value).results after
      | (.error fault, after) => (.error fault, after) := by
  have hstep : (action >>= next).results state =
      ExceptT.bindCont next (action.results state).1 (action.results state).2 := rfl
  rw [hstep]
  rcases action.results state with ⟨_ | _, after⟩ <;> rfl

end Action

end PageCapture
