import PageCapture.Config.Basic
import PageCapture.Proofs.Viewport.Axis

/-!
# Room for growth

The bounds under which no length of a capture leaves its range. Sizes that are not negative can be
subtracted from each other, and a frame with `Size.Roomy` can grow by as much as the greatest limit
allows: `planAxis_of_room` says that both its axes can be planned under options that are allowed,
and the options of a configuration that is accepted are allowed (`Config.allowed_of_validate`). A
plan never makes a window smaller (`le_targetWindow`), whatever the lengths are.
-/

set_option autoImplicit false
set_option relaxedAutoImplicit false

namespace PageCapture

/-! ### Sizes -/

/-- Both sides of a size are at least zero. -/
structure Size.Nonnegative (size : Size) : Prop where
  width : 0 ≤ size.width.toInt
  height : 0 ≤ size.height.toInt

/-- A size from which every growth stays within range. -/
structure Size.Roomy (size : Size) : Prop extends size.Nonnegative where
  width_le : size.width.toInt ≤ 2147483647 - 65534
  height_le : size.height.toInt ≤ 2147483647 - 65534

/-- Sizes are the same when their sides are the same integers. -/
theorem Size.eq_of_toInt {first second : Size} (hwidth : first.width.toInt = second.width.toInt)
    (hheight : first.height.toInt = second.height.toInt) : first = second := by
  obtain ⟨width, height⟩ := first
  obtain ⟨width', height'⟩ := second
  obtain rfl : width = width' := Int32.toInt_inj.mp hwidth
  obtain rfl : height = height' := Int32.toInt_inj.mp hheight
  rfl

theorem toInt_subtract {a b : Int32} (ha : 0 ≤ a.toInt) (hb : 0 ≤ b.toInt) :
    (a - b).toInt = a.toInt - b.toInt := by
  have hbelow := Int32.toInt_lt a
  have hbeneath := Int32.toInt_lt b
  rw [Int32.toInt_sub]
  exact Int.bmod_eq_of_le (by omega) (by omega)

/-- Lengths can be subtracted. -/
theorem Checked.subtract_of_nonneg {a b : Int32} (ha : 0 ≤ a.toInt) (hb : 0 ≤ b.toInt) :
    Checked.subtract a b = .ok (a - b) :=
  Checked.subtract_eq_ok_iff.mpr (toInt_subtract ha hb)

theorem toInt_max_zero (a : Int32) : (max a 0).toInt = max a.toInt 0 :=
  toInt_max a 0

/-! ### Options -/

/-- Options that a valid configuration may hold. -/
structure CaptureOptions.Allowed (options : CaptureOptions) : Prop where
  one_le : 1 ≤ options.maxDimension.toInt
  le_greatest : options.maxDimension.toInt ≤ 65534
  sampleInset : 0 ≤ options.sampleInset.toInt
  scrollbarRetention : 0 ≤ options.scrollbarRetention.toInt

/-- The options of a configuration that is accepted are allowed. -/
theorem Config.allowed_of_validate {config : Config} (hvalid : config.validate = .ok ()) :
    config.capture.Allowed := by
  obtain ⟨hone, hgreatest, hinset, hretention, -⟩ := validate_eq_ok_iff.mp hvalid
  exact ⟨Int32.le_iff_toInt_le.mp hone, Int32.le_iff_toInt_le.mp hgreatest,
    Int32.le_iff_toInt_le.mp hinset, Int32.le_iff_toInt_le.mp hretention⟩

/-! ### Plans -/

/-- An axis of a window with room can be planned. -/
theorem planAxis_of_room {options : CaptureOptions} (hallowed : options.Allowed)
    {input : AxisInput} (hroom : input.window.toInt ≤ 2147483647 - 65534)
    (hview : 0 ≤ input.view.toInt) (hclient : 0 ≤ input.client.toInt) {retention : Int32}
    (hretention : 0 ≤ retention.toInt) :
    ∃ plan, planAxis input options.maxDimension retention = .ok plan := by
  have hlow := hallowed.one_le
  have hhigh := hallowed.le_greatest
  have hatMost := targetLength_le input.view.toInt input.client.toInt input.scroll.toInt
    options.maxDimension.toInt hretention
  exact exists_planAxis input options.maxDimension retention hview hclient (by omega) hretention
    (by omega)

/-- A plan does not make a window smaller. -/
theorem le_targetWindow {input : AxisInput} {limit retention : Int32} {plan : AxisPlan}
    (hplan : planAxis input limit retention = .ok plan) :
    input.window.toInt ≤ plan.targetWindow.toInt := by
  obtain ⟨difference, -, hafter⟩ := exists_of_bind hplan
  obtain ⟨targetView, -, hbehind⟩ := exists_of_bind hafter
  obtain ⟨targetWindow, hwindow, hlast⟩ := exists_of_bind hbehind
  have hgrown := toInt_of_targetWindowFor hwindow
  cases hlast
  simp only
  omega

end PageCapture
