import PageCapture.Proofs.Browser.Request

/-!
# Frames with a limit

What a request comes to where the layout follows a resize at once, also under a limit on the frame.
`Scenario.reach` is the frame that a capture arrives at, the planned one as far as the limit allows,
and `Scenario.pictured` is its client area. The two growths of an attempt come to that frame
together (`resolveViewport_yields_of_limited`), and the attempt leaves the browser as it was but for
the script (`captureOnce_gives_of_limited`).

So all attempts of a request draw views of one size, and each goes on in the script where the one in
front of it has stopped. `Size.answered` is the answer that they come to, and
`simulateScreenshot_eq_of_limited` says that this is the answer to the request.
-/

set_option autoImplicit false
set_option relaxedAutoImplicit false

namespace PageCapture

/-! ### The frame that is arrived at -/

namespace Scenario

variable (scenario : Scenario) (options : CaptureOptions)

/-- The frame that is planned, as far as the limit allows. -/
def reach : Size :=
  SimulatedBrowser.cut scenario.maxWindow (scenario.targetFrame options scenario.client)

/-- The client area of that frame. -/
def pictured : Size := ((scenario.reach options).less scenario.chrome).less scenario.clientInsets

theorem pictured_with_paint (paint : List PaintOutcome) :
    ({ scenario with paint } : Scenario).pictured options = scenario.pictured options :=
  rfl

section Limited

variable {scenario options} (hlimited : scenario.Limited)

include hlimited

/-- Any script will do. -/
theorem Limited.with_paint (paint : List PaintOutcome) :
    ({ scenario with paint } : Scenario).Limited where
  regular := { hlimited.regular with }
  maxWindow := hlimited.maxWindow

theorem Limited.roomy : scenario.Roomy where
  window := hlimited.regular.roomy.window
  chrome := hlimited.regular.chrome_nonneg
  clientInsets := hlimited.regular.insets_nonneg
  restoredWindow := hlimited.regular.restoredWindow
  maxWindow := hlimited.maxWindow

/-- The limit leaves the height at the start as it is. -/
theorem Limited.cut_height (width : Int32) :
    SimulatedBrowser.cut scenario.maxWindow ⟨width, scenario.window.height⟩ =
      ⟨(SimulatedBrowser.cut scenario.maxWindow ⟨width, scenario.window.height⟩).width,
        scenario.window.height⟩ := by
  cases hlimit : scenario.maxWindow with
  | none => rfl
  | some limit =>
    have hheight := Int32.le_iff_toInt_le.mp (hlimited.maxWindow limit hlimit).2
    refine Size.eq_of_toInt rfl ?_
    rw [SimulatedBrowser.cut, toInt_min]
    exact Int.min_eq_left hheight

/-- The limit does not cut a frame to less than the one at the start. -/
theorem Limited.window_le_cut {size : Size}
    (hwidth : scenario.window.width.toInt ≤ size.width.toInt)
    (hheight : scenario.window.height.toInt ≤ size.height.toInt) :
    scenario.window.width.toInt ≤ (SimulatedBrowser.cut scenario.maxWindow size).width.toInt ∧
      scenario.window.height.toInt ≤
        (SimulatedBrowser.cut scenario.maxWindow size).height.toInt := by
  cases hlimit : scenario.maxWindow with
  | none => exact ⟨hwidth, hheight⟩
  | some limit =>
    obtain ⟨hlimitWidth, hlimitHeight⟩ := hlimited.maxWindow limit hlimit
    rw [Int32.le_iff_toInt_le] at hlimitWidth hlimitHeight
    rw [SimulatedBrowser.cut, toInt_min, toInt_min]
    omega

/-- The client area at the start is not empty. -/
theorem Limited.one_le_client :
    1 ≤ scenario.client.width.toInt ∧ 1 ≤ scenario.client.height.toInt :=
  hlimited.regular.one_le_client

/-- The client area at the start, in the integers. -/
theorem Limited.toInt_client :
    scenario.client.width.toInt = scenario.window.width.toInt - scenario.chrome.width.toInt -
        scenario.clientInsets.width.toInt ∧
      scenario.client.height.toInt = scenario.window.height.toInt - scenario.chrome.height.toInt -
        scenario.clientInsets.height.toInt := by
  have hregular := hlimited.regular
  rw [← hregular.toInt_view_width, ← hregular.toInt_view_height]
  exact hregular.toInt_client

theorem Limited.client_nonneg : scenario.client.Nonnegative :=
  ⟨Int.le_trans (by decide) hlimited.one_le_client.1,
    Int.le_trans (by decide) hlimited.one_le_client.2⟩

variable (hallowed : options.Allowed)

include hallowed

theorem Limited.targetFrame_nonneg : (scenario.targetFrame options scenario.client).Nonnegative :=
  hlimited.regular.targetFrame_nonneg scenario.client hallowed

/-- A side that is not resized keeps its length. -/
theorem Limited.window_eq_targetFrame :
    (scenario.growsWide options scenario.client = false →
        scenario.window.width = (scenario.targetFrame options scenario.client).width) ∧
      (scenario.growsHigh options scenario.client = false →
        scenario.window.height = (scenario.targetFrame options scenario.client).height) := by
  obtain ⟨hwide, hhigh⟩ :=
    SimulatedBrowser.targetFrame_ne hlimited.regular hallowed scenario.client
  refine ⟨fun hstays ↦ Decidable.byContradiction fun hmoves ↦ ?_,
    fun hstays ↦ Decidable.byContradiction fun hmoves ↦ ?_⟩
  · exact Bool.false_ne_true (hstays.symm.trans (hwide.mpr hmoves))
  · exact Bool.false_ne_true (hstays.symm.trans (hhigh.mpr hmoves))

/-- Without a growth the frame stays where it is. -/
theorem Limited.reach_of_still (hstill : scenario.grows options scenario.client = false) :
    scenario.reach options = scenario.window := by
  obtain ⟨hwide, hhigh⟩ := Bool.or_eq_false_iff.mp hstill
  obtain ⟨hwidth, hheight⟩ := hlimited.window_eq_targetFrame hallowed
  have hframe : scenario.targetFrame options scenario.client = scenario.window :=
    Size.eq_of_toInt (by rw [hwidth hwide]) (by rw [hheight hhigh])
  rw [reach, hframe, SimulatedBrowser.cut_of_le hlimited.maxWindow]

/-- The frame that is arrived at is no less than the one at the start. -/
theorem Limited.window_le_reach :
    scenario.window.width.toInt ≤ (scenario.reach options).width.toInt ∧
      scenario.window.height.toInt ≤ (scenario.reach options).height.toInt := by
  obtain ⟨hwidth, hheight⟩ := hlimited.regular.window_le_targetFrame scenario.client hallowed
  exact hlimited.window_le_cut hwidth hheight

/-- The picture shows no less than the client area at the start. -/
theorem Limited.client_le_pictured :
    scenario.client.width.toInt ≤ (scenario.pictured options).width.toInt ∧
      scenario.client.height.toInt ≤ (scenario.pictured options).height.toInt := by
  obtain ⟨hwidth, hheight⟩ := hlimited.window_le_reach hallowed
  have hwindow := hlimited.roomy.window.toNonnegative
  have hreach : (scenario.reach options).Nonnegative :=
    ⟨Int.le_trans hwindow.width hwidth, Int.le_trans hwindow.height hheight⟩
  obtain ⟨hwide, hhigh⟩ := hwindow.less_mono hlimited.roomy.chrome hreach hwidth hheight
  exact (hwindow.less hlimited.roomy.chrome).less_mono hlimited.roomy.clientInsets
    (hreach.less hlimited.roomy.chrome) hwide hhigh

theorem Limited.one_le_pictured :
    1 ≤ (scenario.pictured options).width.toInt ∧ 1 ≤ (scenario.pictured options).height.toInt := by
  obtain ⟨hwidth, hheight⟩ := hlimited.one_le_client
  obtain ⟨hwide, hhigh⟩ := hlimited.client_le_pictured hallowed
  exact ⟨Int.le_trans hwidth hwide, Int.le_trans hheight hhigh⟩

end Limited

end Scenario

/-! ### The answer -/

/-- The answer that some attempts come to that draw views of one size. -/
def Size.answered (size sample : Size) : (attempts : Nat) → List PaintOutcome → Response
  | 0, _ => .success ""
  | attempts + 1, script =>
    (size.drawn sample script).1.elim
      (answered size sample attempts (size.drawn sample script).2)
      fun outcome ↦ answer (outcome.picture size)

namespace SimulatedBrowser

variable {scenario : Scenario} {options : CaptureOptions} {scene : Scene}
  (hlimited : scenario.Limited) (hallowed : options.Allowed) (hlag : scenario.layoutLag = 0)
  (hopens : Opens scenario scene)

include hlag hopens

/-! ### The scenes of an attempt -/

omit hlag in
/-- It does not matter what of the script is left. -/
theorem Opens.with_paint (paint : List PaintOutcome) : Opens scenario { scene with paint } :=
  { hopens with }

theorem Opens.settled : scene.Settled scenario where
  laidOut := by rw [(hopens.synced hlag).1, hopens.frame, Scenario.view]
  pending := (hopens.synced hlag).2

theorem Opens.client_eq : scene.client scenario = scenario.client := by
  rw [Scene.client, (hopens.synced hlag).1, Scenario.client]

include hlimited hallowed in
/-- Behind the growths the layout shows the client area of the frame that was arrived at. -/
theorem Opens.client_grown :
    (scene.grown scenario (scenario.grows options scenario.client)
      (scenario.reach options)).client scenario = scenario.pictured options := by
  cases hgrows : scenario.grows options scenario.client with
  | true =>
    rw [(hopens.settled hlag).grown_eq hlag]
    rfl
  | false =>
    rw [Scenario.pictured, hlimited.reach_of_still hallowed hgrows]
    exact hopens.client_eq hlag

include hlimited hallowed in
/-- The first read behind the growths settles. -/
theorem Opens.settled_grown :
    (scene.grown scenario (scenario.grows options scenario.client)
      (scenario.reach options)).settled scenario scenario.client
        (scenario.growsWide options scenario.client) (scenario.growsHigh options scenario.client) =
      (scenario.pictured options, scene.grown scenario (scenario.grows options scenario.client)
        (scenario.reach options)) := by
  rw [← hopens.client_grown hlimited hallowed hlag]
  refine Scene.settled_of_none scenario ((hopens.settled hlag).grown hlag _ _).pending
    fun hstill ↦ ?_
  rw [Scenario.grows, hstill]
  exact hopens.client_eq hlag

/-- Closing the session leaves the scene as it was but for the script. -/
theorem Opens.closed_grown (grew : Bool) (frame : Size) (rest : List PaintOutcome) :
    ({ scene.grown scenario grew frame with paint := rest } : Scene).closed scenario grew =
      { scene with paint := rest } := by
  cases grew with
  | false => rfl
  | true =>
    have hlast : ({ scene with
        frame, laidOut := frame.less scenario.chrome, maximized := scenario.maximized,
        paint := rest } : Scene).Settled scenario :=
      ⟨rfl, (hopens.synced hlag).2⟩
    rw [(hopens.settled hlag).grown_eq hlag, Scene.closed, if_pos rfl, hlast.moved_eq hlag,
      ← hopens.frame, ← (hopens.settled hlag).laidOut, ← hopens.maximized]

/-! ### An attempt -/

include hlimited hallowed

/-- The two growths of a resolution come to the frame that is arrived at. -/
theorem resolveViewport_yields_of_limited (hready : scenario.Ready) (canvas : Canvas) :
    Attempt.Yields (Attempt.Within (opening scenario) (Shows scenario scene))
      (resolveViewport host.toWindowSystem host.toDisplayedDocument options canvas scenario.view)
      {
        dimensions := {
          window := scenario.targetFrame options scenario.client
          view := scenario.targetView options scenario.client
          client := scenario.pictured options }
        initialClient := scenario.client
        resized := scenario.grows options scenario.client }
      (Attempt.Within ((opening scenario).grown (scenario.grows options scenario.client))
        (Shows scenario (scene.grown scenario (scenario.grows options scenario.client)
          (scenario.reach options)))) := by
  have hgrants := hlimited.roomy.grants hready.hasCanvas hready.windowSizeFails
  have hsettled := hopens.settled hlag
  have hlast := hlimited.targetFrame_nonneg hallowed
  have hrow := hlimited.cut_height (scenario.targetFrame options scenario.client).width
  have hbetween : Size.Nonnegative
      ⟨(scenario.targetFrame options scenario.client).width, scenario.window.height⟩ :=
    ⟨hlast.width, hgrants.window.height⟩
  obtain ⟨widened, hwidened⟩ : ∃ widened : Scene, scene.grown scenario
      (scenario.growsWide options scenario.client) (cut scenario.maxWindow
        ⟨(scenario.targetFrame options scenario.client).width, scenario.window.height⟩) = widened :=
    ⟨_, rfl⟩
  have hgrown : widened.grown scenario (scenario.growsHigh options scenario.client)
      (cut scenario.maxWindow (scenario.targetFrame options scenario.client)) =
        scene.grown scenario (scenario.grows options scenario.client) (scenario.reach options) := by
    rw [← hwidened]
    refine hsettled.grown_grown hlag fun hstays ↦ ?_
    rw [(hlimited.window_eq_targetFrame hallowed).2 hstays]
  have hwide := growTo_yields_of_settled hgrants hlag hsettled hopens.follows hbetween
    (scenario.growsWide options scenario.client)
  have hhigh := growTo_yields_of_settled hgrants hlag (hwidened ▸ hsettled.grown hlag _ _)
    (hwidened ▸ hopens.follows.grown _ _) hlast (scenario.growsHigh options scenario.client)
  rw [hwidened] at hwide
  rw [hgrown] at hhigh
  refine resolveViewport_yields_of_growths hlimited hallowed hgrants canvas (hopens.client_eq hlag)
    hlimited.client_nonneg hwide ?_ hhigh (hopens.settled_grown hlimited hallowed hlag)
    (hlimited.one_le_pictured hallowed)
  rw [← hwidened, hrow, hopens.client_height, hopens.client_eq hlag]

variable (hready : scenario.Ready) (canvas : Canvas)

include hready

/-- An attempt draws a view of the size of the picture, and leaves the scene as it was but for the
script. -/
theorem captureOnce_gives_of_limited :
    Action.Gives (Shows scenario scene)
      (captureOnce host options ⟨frameWindow, contentWindow, canvas⟩) fun reply last ↦
        ∃ image? rest, reply = replyFor image? ∧
          Draws (scenario.pictured options) ((scenario.pictured options).drawn
            (options.sample scenario.client) scene.paint) image? rest ∧
          Shows scenario { scene with paint := ((scenario.pictured options).drawn
            (options.sample scenario.client) scene.paint).2 } last := by
  have hgrants := hlimited.roomy.grants hready.hasCanvas hready.windowSizeFails
  have hleft : scenario.grows options scenario.client = true → (scene.grown scenario
      (scenario.grows options scenario.client) (scenario.reach options)).maximized = false := by
    intro hgrows
    rw [hgrows, (hopens.settled hlag).grown_eq hlag]
  have honce := captureOnce_gives_of_resolved hgrants hallowed hopens.frame
    hlimited.client_nonneg canvas
    (resolveViewport_yields_of_limited hlimited hallowed hlag hopens hready canvas)
    hopens.maximized (cut_of_le hlimited.maxWindow) hleft rfl (hlimited.one_le_pictured hallowed)
  rw [Scene.grown_paint] at honce
  refine honce.mono fun reply last ⟨image?, rest, hreply, hdrawn, hshows⟩ ↦ ?_
  rw [hopens.closed_grown hlag, hdrawn.rest] at hshows
  exact ⟨image?, rest, hreply, hdrawn, hshows⟩

/-! ### A request -/

omit hopens in
theorem captureFrom_gives_of_limited (attempts : Nat) {scene : Scene}
    (hopens : Opens scenario scene) :
    Action.Gives (Shows scenario scene)
      (captureFrom host options ⟨frameWindow, contentWindow, canvas⟩ attempts) fun ended _ ↦
        Answers ((scenario.pictured options).answered (options.sample scenario.client) attempts
          scene.paint) ended := by
  induction attempts generalizing scene with
  | zero => exact fun browser _ ↦ ⟨.error (.success ""), browser, rfl, rfl⟩
  | succ attempts ih =>
    have honce := captureOnce_gives_of_limited hlimited hallowed hlag hopens hready canvas
    rw [Size.answered]
    generalize
      (scenario.pictured options).drawn (options.sample scenario.client) scene.paint = drawn
      at honce ⊢
    exact captureFrom_succ_gives honce (ih (hopens.with_paint drawn.2))

end SimulatedBrowser

/-- The answer to a request where the layout follows at once, also under a limit on the frame. -/
theorem simulateScreenshot_eq_of_limited {scenario : Scenario} {options : CaptureOptions}
    (hlimited : scenario.Limited) (hallowed : options.Allowed) (hlag : scenario.layoutLag = 0)
    (hready : scenario.Ready) :
    simulateScreenshot options scenario =
      .ok ((scenario.pictured options).answered (options.sample scenario.client) captureAttempts
        scenario.paint) :=
  hlimited.roomy.simulateScreenshot_eq
    (SimulatedBrowser.takeScreenshot_gives_of_attempts hready fun canvas ↦
      SimulatedBrowser.captureFrom_gives_of_limited hlimited hallowed hlag hready canvas
        captureAttempts scenario.opens_opened)

end PageCapture
