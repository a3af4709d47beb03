import PageCapture.Proofs.Browser.Scene

/-!
# The plan of a simulated viewport

What the plans of the two axes come to in front of a simulated browser. They depend on the scenario,
on the options and on the client area that the layout shows at the start of the attempt, which is
all that an earlier attempt can leave behind: `Scenario.targetView` is the viewport that is planned,
`Scenario.grows` says whether the frame is resized at all, and `Scenario.targetFrame` is the frame
that gives that viewport (`targetFrame_less_chrome`).

The plans are made for scenarios and options within bounds, `Scenario.Regular` and
`CaptureOptions.Allowed`, where nothing overflows. They do not look at a limit on the frame, so that
they are the same in a scenario that is regular but for the limit (`Scenario.Limited`).
-/

set_option autoImplicit false
set_option relaxedAutoImplicit false

namespace PageCapture

/-! ### Scenarios within bounds -/

/-- The lengths of an axis: a window from which every growth stays within range, chrome that fits
into it, and a client area that is not empty. -/
structure RegularAxis (window chrome insets : Int32) : Prop where
  window_le : window.toInt ≤ 2147483647 - 65534
  chrome_nonneg : 0 ≤ chrome.toInt
  chrome_le : chrome.toInt ≤ window.toInt
  insets_nonneg : 0 ≤ insets.toInt
  insets_lt : insets.toInt < window.toInt - chrome.toInt

/-- A scenario whose sizes leave room for every growth: none is negative, and the frame is not cut
to less than it begins with. -/
structure Scenario.Roomy (scenario : Scenario) : Prop where
  window : scenario.window.Roomy
  chrome : scenario.chrome.Nonnegative
  clientInsets : scenario.clientInsets.Nonnegative
  restoredWindow : ∀ size, scenario.restoredWindow = some size → size.Nonnegative
  maxWindow : ∀ limit, scenario.maxWindow = some limit →
    scenario.window.width ≤ limit.width ∧ scenario.window.height ≤ limit.height

/-- A scenario whose sizes make sense together and whose frame takes any size. -/
structure Scenario.Regular (scenario : Scenario) : Prop where
  width : RegularAxis scenario.window.width scenario.chrome.width scenario.clientInsets.width
  height : RegularAxis scenario.window.height scenario.chrome.height scenario.clientInsets.height
  content : scenario.content.Nonnegative
  restoredWindow : ∀ size, scenario.restoredWindow = some size → size.Nonnegative
  maxWindow : scenario.maxWindow = none

/-- A scenario that is regular but for a limit on the frame, which is not less than the frame at the
start. -/
structure Scenario.Limited (scenario : Scenario) : Prop where
  regular : ({ scenario with maxWindow := none } : Scenario).Regular
  maxWindow : ∀ limit, scenario.maxWindow = some limit →
    scenario.window.width ≤ limit.width ∧ scenario.window.height ≤ limit.height

theorem Scenario.Regular.limited {scenario : Scenario} (hregular : scenario.Regular) :
    scenario.Limited where
  regular := { hregular with maxWindow := rfl }
  maxWindow := by rw [hregular.maxWindow]; nofun

/-- A scenario in which there is a document to draw and the size of windows can be had. -/
structure Scenario.Ready (scenario : Scenario) : Prop where
  hasWindow : scenario.hasWindow = true
  hasDocument : scenario.hasDocument = true
  hasCanvas : scenario.hasCanvas = true
  windowSizeFails : scenario.windowSizeFails = false

theorem Scenario.Roomy.grants {scenario : Scenario} (hroomy : scenario.Roomy)
    (hcanvas : scenario.hasCanvas = true) (hsizes : scenario.windowSizeFails = false) :
    SimulatedBrowser.Grants scenario where
  chrome := hroomy.chrome
  clientInsets := hroomy.clientInsets
  window := hroomy.window.toNonnegative
  limit := by
    intro limit hlimit
    obtain ⟨hwidth, hheight⟩ := hroomy.maxWindow limit hlimit
    rw [Int32.le_iff_toInt_le] at hwidth hheight
    exact ⟨Int.le_trans hroomy.window.width hwidth, Int.le_trans hroomy.window.height hheight⟩
  hasCanvas := hcanvas
  windowSizeFails := hsizes

/-! ### One axis -/

namespace RegularAxis

variable {window chrome insets : Int32} (haxis : RegularAxis window chrome insets)

include haxis

theorem window_nonneg : 0 ≤ window.toInt :=
  Int.le_trans haxis.chrome_nonneg haxis.chrome_le

/-- The side of the viewport. -/
theorem toInt_view : (max (window - chrome) 0).toInt = window.toInt - chrome.toInt := by
  have hnonneg := haxis.chrome_le
  rw [toInt_max_zero, toInt_subtract haxis.window_nonneg haxis.chrome_nonneg]
  omega

variable {client scroll limit : Int32} (retention : Int32) (hlimit : limit.toInt ≤ 65534)
  (hretention : 0 ≤ retention.toInt)

include hlimit hretention

/-- The planned side of the viewport is within range. -/
theorem toInt_target :
    (Int32.ofInt (targetLength (max (window - chrome) 0).toInt client.toInt scroll.toInt
      limit.toInt retention.toInt)).toInt =
    targetLength (max (window - chrome) 0).toInt client.toInt scroll.toInt limit.toInt
      retention.toInt := by
  have hview := haxis.toInt_view
  have hwindow := haxis.window_le
  have hchrome := haxis.chrome_nonneg
  have hfits := haxis.chrome_le
  have hatLeast := le_targetLength (max (window - chrome) 0).toInt client.toInt scroll.toInt
    limit.toInt retention.toInt
  have hatMost := targetLength_le (max (window - chrome) 0).toInt client.toInt scroll.toInt
    limit.toInt hretention
  exact Int32.toInt_ofInt_of_le (by omega) (by omega)

/-- A window that grows by as much as its viewport is within range. -/
theorem toInt_grown {target : Int32}
    (htarget : target.toInt = targetLength (max (window - chrome) 0).toInt client.toInt
      scroll.toInt limit.toInt retention.toInt) :
    (window + (target - max (window - chrome) 0)).toInt = target.toInt + chrome.toInt := by
  have hview := haxis.toInt_view
  have hwindow := haxis.window_le
  have hchrome := haxis.chrome_nonneg
  have hfits := haxis.chrome_le
  have hatLeast := le_targetLength (max (window - chrome) 0).toInt client.toInt scroll.toInt
    limit.toInt retention.toInt
  have hatMost := targetLength_le (max (window - chrome) 0).toInt client.toInt scroll.toInt
    limit.toInt hretention
  rw [Int32.toInt_add, toInt_subtract (by omega) (by omega), hview, Int.bmod_eq_of_le] <;> omega

/-- The plan of the axis. -/
theorem planAxis_eq_ok {target : Int32} (hclient : 0 ≤ client.toInt) (hpositive : 0 ≤ limit.toInt)
    (htarget : target.toInt = targetLength (max (window - chrome) 0).toInt client.toInt
      scroll.toInt limit.toInt retention.toInt) :
    ∃ plan, planAxis ⟨window, max (window - chrome) 0, client, scroll⟩ limit retention = .ok plan ∧
      plan.targetView = target ∧
      plan.targetWindow = window + (target - max (window - chrome) 0) ∧
      plan.needsResize = decide ((max (window - chrome) 0).toInt < target.toInt) ∧
      (0 < plan.scrollbar ↔ client < max (window - chrome) 0) := by
  have hview := haxis.toInt_view
  have hwindow := haxis.window_le
  have hchrome := haxis.chrome_nonneg
  have hfits := haxis.chrome_le
  have hatMost := targetLength_le (max (window - chrome) 0).toInt client.toInt scroll.toInt
    limit.toInt hretention
  obtain ⟨plan, hplan⟩ := exists_planAxis
    ⟨window, max (window - chrome) 0, client, scroll⟩ limit retention (by simp only; omega)
    hclient hpositive hretention (by simp only; omega)
  obtain ⟨hscrollbar, hplanned, hgrown, hneeds, -⟩ := planAxis_meets hretention hplan
  simp only at hscrollbar hplanned hgrown hneeds
  have hsame : plan.targetView = target := Int32.toInt_inj.mp (hplanned.trans htarget.symm)
  rw [hsame] at hgrown hneeds
  refine ⟨plan, hplan, hsame, Int32.toInt_inj.mp ?_,
    Bool.eq_iff_iff.mpr (hneeds.trans decide_eq_true_iff.symm), ?_⟩
  · rw [hgrown, haxis.toInt_grown retention hlimit hretention htarget]
    omega
  · rw [Int32.lt_iff_toInt_lt, Int32.lt_iff_toInt_lt, hscrollbar, Int32.toInt_zero]
    omega

end RegularAxis

namespace Scenario

variable (scenario : Scenario) (options : CaptureOptions)

/-- The viewport of the frame that the scenario begins with. -/
def view : Size := scenario.window.less scenario.chrome

/-- The client area of that viewport. -/
def client : Size := scenario.view.less scenario.clientInsets

variable (client : Size)

/-- The retention that is taken off the height: none without a vertical scroll bar. -/
def retention : Int32 :=
  if client.width < scenario.view.width then options.scrollbarRetention else 0

/-- The viewport that is planned when the layout shows a client area. -/
def targetView : Size where
  width := Int32.ofInt (targetLength scenario.view.width.toInt client.width.toInt
    (scenario.scroll client).width.toInt options.maxDimension.toInt 0)
  height := Int32.ofInt (targetLength scenario.view.height.toInt client.height.toInt
    (scenario.scroll client).height.toInt options.maxDimension.toInt
    (scenario.retention options client).toInt)

/-- The client area of the planned viewport. -/
def targetClient : Size := (scenario.targetView options client).less scenario.clientInsets

/-- The frame that is planned: it grows by as much as the viewport. -/
def targetFrame : Size where
  width := scenario.window.width +
    ((scenario.targetView options client).width - scenario.view.width)
  height := scenario.window.height +
    ((scenario.targetView options client).height - scenario.view.height)

/-- Whether the width is resized. -/
def growsWide : Bool :=
  decide (scenario.view.width.toInt < (scenario.targetView options client).width.toInt)

/-- Whether the height is resized. -/
def growsHigh : Bool :=
  decide (scenario.view.height.toInt < (scenario.targetView options client).height.toInt)

/-- Whether the frame is resized. -/
def grows : Bool := scenario.growsWide options client || scenario.growsHigh options client

/-! ### Two axes -/

section Planned

variable {scenario options} (hregular : scenario.Regular) (hallowed : options.Allowed)

include hregular

omit client in
theorem Regular.window_nonneg : scenario.window.Nonnegative :=
  ⟨hregular.width.window_nonneg, hregular.height.window_nonneg⟩

omit client in
theorem Regular.chrome_nonneg : scenario.chrome.Nonnegative :=
  ⟨hregular.width.chrome_nonneg, hregular.height.chrome_nonneg⟩

omit client in
theorem Regular.insets_nonneg : scenario.clientInsets.Nonnegative :=
  ⟨hregular.width.insets_nonneg, hregular.height.insets_nonneg⟩

omit client in
theorem Regular.roomy : scenario.Roomy where
  window := ⟨hregular.window_nonneg, hregular.width.window_le, hregular.height.window_le⟩
  chrome := hregular.chrome_nonneg
  clientInsets := hregular.insets_nonneg
  restoredWindow := hregular.restoredWindow
  maxWindow := by rw [hregular.maxWindow]; nofun

omit client in
theorem Regular.obeys (hready : scenario.Ready) : SimulatedBrowser.Obeys scenario where
  toGrants := hregular.roomy.grants hready.hasCanvas hready.windowSizeFails
  maxWindow := hregular.maxWindow

omit client in
/-- The viewport that the scenario begins with, in the integers. -/
theorem Regular.toInt_view_width :
    scenario.view.width.toInt = scenario.window.width.toInt - scenario.chrome.width.toInt :=
  hregular.width.toInt_view

omit client in
theorem Regular.toInt_view_height :
    scenario.view.height.toInt = scenario.window.height.toInt - scenario.chrome.height.toInt :=
  hregular.height.toInt_view

omit client in
/-- The insets leave something of the viewport. -/
theorem Regular.insets_lt_view :
    scenario.clientInsets.width.toInt < scenario.view.width.toInt ∧
      scenario.clientInsets.height.toInt < scenario.view.height.toInt := by
  rw [hregular.toInt_view_width, hregular.toInt_view_height]
  exact ⟨hregular.width.insets_lt, hregular.height.insets_lt⟩

omit client in
/-- A viewport that is at least as large as the first has a client area of its size less the
insets. -/
theorem Regular.toInt_less_insets {view : Size}
    (hwidth : scenario.view.width.toInt ≤ view.width.toInt)
    (hheight : scenario.view.height.toInt ≤ view.height.toInt) :
    (view.less scenario.clientInsets).width.toInt =
        view.width.toInt - scenario.clientInsets.width.toInt ∧
      (view.less scenario.clientInsets).height.toInt =
        view.height.toInt - scenario.clientInsets.height.toInt := by
  obtain ⟨hwide, hhigh⟩ := hregular.insets_lt_view
  have hinsets := hregular.insets_nonneg
  have hview : view.Nonnegative := by
    have hinsetsWide := hinsets.width
    have hinsetsHigh := hinsets.height
    exact ⟨by omega, by omega⟩
  rw [hview.width_less hinsets, hview.height_less hinsets]
  omega

omit client in
/-- The client area that the scenario begins with, in the integers. -/
theorem Regular.toInt_client :
    scenario.client.width.toInt =
        scenario.view.width.toInt - scenario.clientInsets.width.toInt ∧
      scenario.client.height.toInt =
        scenario.view.height.toInt - scenario.clientInsets.height.toInt :=
  hregular.toInt_less_insets (Int.le_refl _) (Int.le_refl _)

omit client in
/-- The client area that the scenario begins with is not empty. -/
theorem Regular.one_le_client :
    1 ≤ scenario.client.width.toInt ∧ 1 ≤ scenario.client.height.toInt := by
  obtain ⟨hwidth, hheight⟩ := hregular.toInt_client
  obtain ⟨hlessWide, hlessHigh⟩ := hregular.insets_lt_view
  rw [hwidth, hheight]
  omega

include hallowed

omit hregular in
theorem retention_nonneg : 0 ≤ (scenario.retention options client).toInt := by
  unfold retention
  split
  · exact hallowed.scrollbarRetention
  · exact Int.le_refl 0

/-- The planned viewport, in the integers. -/
theorem Regular.toInt_targetView_width : (scenario.targetView options client).width.toInt =
    targetLength scenario.view.width.toInt client.width.toInt (scenario.scroll client).width.toInt
      options.maxDimension.toInt 0 :=
  hregular.width.toInt_target 0 hallowed.le_greatest (Int.le_refl 0)

theorem Regular.toInt_targetView_height : (scenario.targetView options client).height.toInt =
    targetLength scenario.view.height.toInt client.height.toInt
      (scenario.scroll client).height.toInt options.maxDimension.toInt
      (scenario.retention options client).toInt :=
  hregular.height.toInt_target _ hallowed.le_greatest (retention_nonneg client hallowed)

/-- The viewport never shrinks. -/
theorem Regular.view_le_targetView :
    scenario.view.width.toInt ≤ (scenario.targetView options client).width.toInt ∧
      scenario.view.height.toInt ≤ (scenario.targetView options client).height.toInt := by
  rw [hregular.toInt_targetView_width client hallowed,
    hregular.toInt_targetView_height client hallowed]
  exact ⟨le_targetLength .., le_targetLength ..⟩

/-- The client area of the planned viewport, in the integers. -/
theorem Regular.toInt_targetClient :
    (scenario.targetClient options client).width.toInt =
        (scenario.targetView options client).width.toInt -
          scenario.clientInsets.width.toInt ∧
      (scenario.targetClient options client).height.toInt =
        (scenario.targetView options client).height.toInt -
          scenario.clientInsets.height.toInt :=
  hregular.toInt_less_insets (hregular.view_le_targetView client hallowed).1
    (hregular.view_le_targetView client hallowed).2

/-- The frame that is planned, in the integers: what the planned viewport and the chrome take. -/
theorem Regular.toInt_targetFrame_width : (scenario.targetFrame options client).width.toInt =
    (scenario.targetView options client).width.toInt + scenario.chrome.width.toInt :=
  hregular.width.toInt_grown 0 hallowed.le_greatest (Int.le_refl 0)
    (hregular.toInt_targetView_width client hallowed)

theorem Regular.toInt_targetFrame_height : (scenario.targetFrame options client).height.toInt =
    (scenario.targetView options client).height.toInt + scenario.chrome.height.toInt :=
  hregular.height.toInt_grown _ hallowed.le_greatest (retention_nonneg client hallowed)
    (hregular.toInt_targetView_height client hallowed)

/-- The planned frame is no less than the one at the start. -/
theorem Regular.window_le_targetFrame :
    scenario.window.width.toInt ≤ (scenario.targetFrame options client).width.toInt ∧
      scenario.window.height.toInt ≤ (scenario.targetFrame options client).height.toInt := by
  have hwidth := hregular.toInt_view_width
  have hheight := hregular.toInt_view_height
  obtain ⟨hwide, hhigh⟩ := hregular.view_le_targetView client hallowed
  rw [hregular.toInt_targetFrame_width client hallowed,
    hregular.toInt_targetFrame_height client hallowed]
  omega

theorem Regular.targetFrame_nonneg : (scenario.targetFrame options client).Nonnegative where
  width := Int.le_trans hregular.width.window_nonneg
    (hregular.window_le_targetFrame client hallowed).1
  height := Int.le_trans hregular.height.window_nonneg
    (hregular.window_le_targetFrame client hallowed).2

/-- The planned frame gives the planned viewport. -/
theorem Regular.targetFrame_less_chrome :
    (scenario.targetFrame options client).less scenario.chrome =
      scenario.targetView options client := by
  have hframe := hregular.targetFrame_nonneg client hallowed
  have hchrome := hregular.chrome_nonneg
  obtain ⟨hwide, hhigh⟩ := hregular.view_le_targetView client hallowed
  obtain ⟨hlessWide, hlessHigh⟩ := hregular.insets_lt_view
  have hinsetsWide := hregular.width.insets_nonneg
  have hinsetsHigh := hregular.height.insets_nonneg
  refine Size.eq_of_toInt ?_ ?_
  · rw [hframe.width_less hchrome, hregular.toInt_targetFrame_width client hallowed]
    omega
  · rw [hframe.height_less hchrome, hregular.toInt_targetFrame_height client hallowed]
    omega

end Planned

/-! ### Plans under a limit -/

section Limited

variable {scenario options} (hlimited : scenario.Limited) (hallowed : options.Allowed)

include hlimited hallowed

/-- The plans of the two axes. They do not look at the limit. -/
theorem Limited.planAxis_width (hclient : client.Nonnegative) :
    ∃ plan, planAxis ⟨scenario.window.width, scenario.view.width, client.width,
        (scenario.scroll client).width⟩ options.maxDimension 0 = .ok plan ∧
      plan.targetView = (scenario.targetView options client).width ∧
      plan.targetWindow = (scenario.targetFrame options client).width ∧
      plan.needsResize = scenario.growsWide options client ∧
      (if 0 < plan.scrollbar then options.scrollbarRetention else 0) =
        scenario.retention options client := by
  have hregular := hlimited.regular
  have hpositive := hallowed.one_le
  obtain ⟨plan, hplan, hview, hwindow, hneeds, hscrollbar⟩ :=
    hregular.width.planAxis_eq_ok 0 hallowed.le_greatest (Int.le_refl 0) hclient.width (by omega)
      (hregular.toInt_targetView_width client hallowed)
  refine ⟨plan, hplan, hview, hwindow, hneeds, ?_⟩
  simp only [hscrollbar, Scenario.retention]
  rfl

theorem Limited.planAxis_height (hclient : client.Nonnegative) :
    ∃ plan, planAxis ⟨scenario.window.height, scenario.view.height, client.height,
        (scenario.scroll client).height⟩ options.maxDimension
        (scenario.retention options client) = .ok plan ∧
      plan.targetView = (scenario.targetView options client).height ∧
      plan.targetWindow = (scenario.targetFrame options client).height ∧
      plan.needsResize = scenario.growsHigh options client := by
  have hregular := hlimited.regular
  have hpositive := hallowed.one_le
  obtain ⟨plan, hplan, hview, hwindow, hneeds, -⟩ :=
    hregular.height.planAxis_eq_ok _ hallowed.le_greatest (retention_nonneg client hallowed)
      hclient.height (by omega) (hregular.toInt_targetView_height client hallowed)
  exact ⟨plan, hplan, hview, hwindow, hneeds⟩

end Limited

end Scenario

end PageCapture
