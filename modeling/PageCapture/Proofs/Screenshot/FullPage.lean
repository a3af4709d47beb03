import PageCapture.Proofs.Browser.Request

/-!
# Pictures of whole pages

`simulateScreenshot_fullPage` is the law of a request to a simulated browser that draws when it is
asked to: the answer is a picture of the whole page. Along each axis it has the `pageLength`, which
is the length of the content, but at most what the limit leaves beside the insets, and never less
than the client area that was there; every pixel is the one of the page.

The width and the height are planned one after the other, but the plan of the height sees the width
only through the scroll bar that was there in the beginning, so that the law has one formula for
either axis.
-/

set_option autoImplicit false
set_option relaxedAutoImplicit false

namespace PageCapture

/-! ### The size of the picture -/

/-- The length of a page in a picture, along an axis with a viewport and insets. -/
def pageLength (view insets content limit retention : Int) : Int :=
  max (view - insets) (min content (limit - insets) - retention)

/-- The client area of a planned viewport is as long as the page. -/
theorem targetLength_sub_insets {view insets content limit retention : Int}
    (hinsets : 0 ≤ insets) (hretention : 0 ≤ retention) :
    targetLength view (view - insets) (max content (view - insets)) limit retention - insets =
      pageLength view insets content limit retention := by
  unfold targetLength pageLength
  omega

namespace Scenario

variable (scenario : Scenario) (options : CaptureOptions)

/-- The retention of a page: none without a vertical scroll bar. -/
def pageRetention : Int :=
  if 0 < scenario.clientInsets.width.toInt then options.scrollbarRetention.toInt else 0

/-- The width of a page in a picture. A layout that takes more than one recalculation to follow a
resize is not waited for. -/
def pageWidth : Int :=
  if scenario.layoutLag ≤ 1 then
    pageLength (scenario.window.width.toInt - scenario.chrome.width.toInt)
      scenario.clientInsets.width.toInt scenario.content.width.toInt options.maxDimension.toInt 0
  else
    scenario.window.width.toInt - scenario.chrome.width.toInt - scenario.clientInsets.width.toInt

/-- The height of a page in a picture. -/
def pageHeight : Int :=
  if scenario.layoutLag ≤ 1 then
    pageLength (scenario.window.height.toInt - scenario.chrome.height.toInt)
      scenario.clientInsets.height.toInt scenario.content.height.toInt options.maxDimension.toInt
      (scenario.pageRetention options)
  else
    scenario.window.height.toInt - scenario.chrome.height.toInt -
      scenario.clientInsets.height.toInt

end Scenario

section Regular

variable {scenario : Scenario} {options : CaptureOptions} (hregular : scenario.Regular)
  (hallowed : options.Allowed)

include hregular

/-- There is a vertical scroll bar exactly when the insets have a width. -/
theorem Scenario.Regular.toInt_retention_client :
    (scenario.retention options scenario.client).toInt = scenario.pageRetention options := by
  have hbar : scenario.client.width < scenario.view.width ↔
      0 < scenario.clientInsets.width.toInt := by
    rw [Int32.lt_iff_toInt_lt, hregular.toInt_client.1]
    omega
  simp only [Scenario.retention, Scenario.pageRetention, hbar]
  split <;> rfl

include hallowed

/-- The client area of the viewport that is planned from the start, in the integers. -/
theorem Scenario.Regular.toInt_targetClient_client :
    (scenario.targetClient options scenario.client).width.toInt =
        pageLength scenario.view.width.toInt scenario.clientInsets.width.toInt
          scenario.content.width.toInt options.maxDimension.toInt 0 ∧
      (scenario.targetClient options scenario.client).height.toInt =
        pageLength scenario.view.height.toInt scenario.clientInsets.height.toInt
          scenario.content.height.toInt options.maxDimension.toInt
          (scenario.pageRetention options) := by
  obtain ⟨hwidth, hheight⟩ := hregular.toInt_targetClient scenario.client hallowed
  obtain ⟨hclientWidth, hclientHeight⟩ := hregular.toInt_client
  have hinsets := hregular.insets_nonneg
  have hretention : 0 ≤ (scenario.retention options scenario.client).toInt :=
    Scenario.retention_nonneg scenario.client hallowed
  rw [hregular.toInt_retention_client] at hretention
  rw [hwidth, hheight, hregular.toInt_targetView_width scenario.client hallowed,
    hregular.toInt_targetView_height scenario.client hallowed, Scenario.scroll, toInt_max,
    toInt_max, hclientWidth, hclientHeight, hregular.toInt_retention_client]
  exact ⟨targetLength_sub_insets hinsets.width (Int.le_refl 0),
    targetLength_sub_insets hinsets.height hretention⟩

/-- The first attempt arrives at the size of the page. -/
theorem Scenario.Regular.toInt_resolved_opened :
    (scenario.opened.resolved scenario options).1.width.toInt = scenario.pageWidth options ∧
      (scenario.opened.resolved scenario options).1.height.toInt = scenario.pageHeight options := by
  have hopens := scenario.opens_opened
  have hfirst : scenario.opened.client scenario = scenario.client := rfl
  unfold Scenario.pageWidth Scenario.pageHeight
  rw [← hregular.toInt_view_width, ← hregular.toInt_view_height]
  obtain ⟨hclientWidth, hclientHeight⟩ := hregular.toInt_client
  by_cases hlag : scenario.layoutLag ≤ 1
  · obtain ⟨hpageWidth, hpageHeight⟩ := hregular.toInt_targetClient_client hallowed
    rw [if_pos hlag, if_pos hlag, ← hpageWidth, ← hpageHeight]
    cases hgrows : scenario.grows options (scenario.opened.client scenario) with
    | true =>
      rw [hopens.resolved_of_prompt hregular hallowed hgrows hlag, hfirst]
      exact ⟨rfl, rfl⟩
    | false =>
      rw [SimulatedBrowser.resolved_of_still hgrows, hfirst]
      rw [hfirst, Scenario.grows, Bool.or_eq_false_iff, Scenario.growsWide, Scenario.growsHigh,
        decide_eq_false_iff_not, decide_eq_false_iff_not] at hgrows
      obtain ⟨hwide, hhigh⟩ := hregular.view_le_targetView scenario.client hallowed
      obtain ⟨hwidth, hheight⟩ := hregular.toInt_targetClient scenario.client hallowed
      simp only
      omega
  · rw [if_neg hlag, if_neg hlag, ← hclientWidth, ← hclientHeight]
    cases hgrows : scenario.grows options (scenario.opened.client scenario) with
    | true =>
      rw [hopens.resolved_of_lagging hregular hallowed hgrows (UInt32.not_le.mp hlag)]
      exact ⟨rfl, rfl⟩
    | false =>
      rw [SimulatedBrowser.resolved_of_still hgrows]
      exact ⟨rfl, rfl⟩

end Regular

/-! ### The law -/

/-- A request to a simulated browser that draws when it is asked to is answered with a picture of
the whole page, as the layout shows it. Assumes: a configuration that is accepted; a scenario whose
sizes make sense together, with a window and a document, whose script is empty; and a bitmap of the
size of the page. -/
theorem simulateScreenshot_fullPage {config : Config} (hvalid : config.validate = .ok ())
    {scenario : Scenario} (hregular : scenario.Regular) (hready : scenario.Ready)
    (hpaint : scenario.paint = [])
    (hgranted : scenario.pageWidth config.capture * 4 * scenario.pageHeight config.capture <
      9223372036854775808) :
    ∃ response image, simulateScreenshot config.capture scenario = .ok response ∧
      response.status = .success ∧ response.picture? = some image ∧
      (image.width.toNat : Int) = scenario.pageWidth config.capture ∧
      (image.height.toNat : Int) = scenario.pageHeight config.capture ∧
      image.colour = .rgba ∧
      ∀ x y : Nat, (x : Int) < scenario.pageWidth config.capture →
        (y : Int) < scenario.pageHeight config.capture →
        image.pixel? x y = some [UInt8.ofNat (x % 256), UInt8.ofNat (y % 256),
          UInt8.ofNat ((x ^^^ y) % 256), 255] := by
  have hallowed := Config.allowed_of_validate hvalid
  obtain ⟨size, hsize⟩ : ∃ size, (scenario.opened.resolved scenario config.capture).1 = size :=
    ⟨_, rfl⟩
  obtain ⟨hwidth, hheight⟩ := hregular.toInt_resolved_opened hallowed
  obtain ⟨hwide, hhigh⟩ := scenario.opens_opened.one_le_resolved hregular hallowed
  rw [hsize] at hwidth hheight hwide hhigh
  rw [← hwidth, ← hheight] at hgranted ⊢
  have hcolumns : (size.columns.toNat : Int) = size.width.toInt := by
    rw [size.toNat_columns, Int.toNat_of_nonneg (by omega)]
  have hrows : (size.rows.toNat : Int) = size.height.toInt := by
    rw [size.toNat_rows, Int.toNat_of_nonneg (by omega)]
  have hbitmap : size.Granted := by
    rw [← hcolumns, ← hrows] at hgranted
    rw [Size.Granted, ← size.toNat_columns, ← size.toNat_rows]
    exact Int.ofNat_lt.mp hgranted
  have hanswer : simulateScreenshot config.capture scenario =
      .ok (answer (PaintOutcome.painted.picture size)) := by
    rw [simulateScreenshot_eq hregular hallowed hready, captureAttempts, Scene.answered,
      Scene.outcome, hsize, show scenario.opened.paint = [] from hpaint, Size.drawn_nil hbitmap]
    rfl
  have hpicture := picture?_answer (PaintOutcome.painted.picture_wellFormed hwide)
  refine ⟨_, _, hanswer, rfl, hpicture, hcolumns, hrows, rfl, fun x y hx hy ↦ ?_⟩
  rw [PaintOutcome.picture, pixel?_drawing .bgra _ (by omega) (by omega)]
  exact congrArg some (samplesOf_paintedPixel x y)

/-- The law for a maximized window with a page longer than it is and a layout that lags: the page is
shown up to the two rows that keep the scroll bar. -/
theorem simulateScreenshot_fullPage_maximized :
    ∃ response image, simulateScreenshot {}
        { content := ⟨600, 2000⟩, maximized := true, layoutLag := 1 } = .ok response ∧
      response.status = .success ∧ response.picture? = some image ∧
      (image.width.toNat : Int) = 983 ∧ (image.height.toNat : Int) = 1998 ∧
      image.colour = .rgba ∧
      ∀ x y : Nat, (x : Int) < 983 → (y : Int) < 1998 →
        image.pixel? x y = some [UInt8.ofNat (x % 256), UInt8.ofNat (y % 256),
          UInt8.ofNat ((x ^^^ y) % 256), 255] := by
  have hvalid : ({} : Config).validate = .ok () := rfl
  have hregular : ({ content := ⟨600, 2000⟩, maximized := true, layoutLag := 1 } :
      Scenario).Regular :=
    { width := by constructor <;> decide
      height := by constructor <;> decide
      content := by constructor <;> decide
      restoredWindow := nofun
      maxWindow := rfl }
  exact simulateScreenshot_fullPage hvalid hregular ⟨rfl, rfl, rfl, rfl⟩ rfl (by decide)

end PageCapture
