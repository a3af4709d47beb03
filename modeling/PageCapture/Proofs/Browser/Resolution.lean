import PageCapture.Proofs.Browser.Growth
import PageCapture.Proofs.Browser.Plan

/-!
# Resolving the viewport of a simulated browser

`Scene.resolved` is what a resolution arrives at: the client area that the layout is settled on, and
the scene behind it. `resolveViewport_yields` says so of a resolution in a scene that `Opens`, which
is what an attempt begins with. What a resolution does beside the two growths of the frame is
`resolveViewport_yields_of_growths`, which does not ask how these come to their ends.

Which client area that is depends on the lag. With at most one recalculation it is the one of the
planned viewport (`Opens.resolved_of_prompt`), with more it is the old one
(`Opens.resolved_of_lagging`): the two reads are used up before the layout has followed.
-/

set_option autoImplicit false
set_option relaxedAutoImplicit false

namespace PageCapture

namespace Scene

variable (scenario : Scenario)

/-- The client area that a resolution arrives at, and the scene behind it. -/
def resolved (options : CaptureOptions) (scene : Scene) : Size × Scene :=
  (scene.grown scenario (scenario.grows options (scene.client scenario))
    (scenario.targetFrame options (scene.client scenario))).settled scenario
      (scene.client scenario) (scenario.growsWide options (scene.client scenario))
      (scenario.growsHigh options (scene.client scenario))

/-- Reading after a growth changes nothing but what the layout shows. -/
theorem resolved_keeps (options : CaptureOptions) (scene : Scene) :
    (scene.resolved scenario options).2.frame =
        (scene.grown scenario (scenario.grows options (scene.client scenario))
          (scenario.targetFrame options (scene.client scenario))).frame ∧
      (scene.resolved scenario options).2.maximized =
        (scene.grown scenario (scenario.grows options (scene.client scenario))
          (scenario.targetFrame options (scene.client scenario))).maximized ∧
      (scene.resolved scenario options).2.paint = scene.paint := by
  unfold resolved settled
  rw [← grown_paint scenario (scenario.grows options (scene.client scenario))
    (scenario.targetFrame options (scene.client scenario)) scene]
  split
  · exact settledFrom_keeps ..
  · exact ⟨rfl, rfl, rfl⟩

/-- A window that has been resized is not maximized. -/
theorem resolved_maximized {options : CaptureOptions} {scene : Scene}
    (hgrows : scenario.grows options (scene.client scenario) = true) :
    (scene.resolved scenario options).2.maximized = false := by
  rw [(resolved_keeps scenario options scene).2.1, hgrows, grown, if_pos rfl, moved_maximized]

end Scene

namespace SimulatedBrowser

variable {scenario : Scenario}

/-! ### Opening scenes -/

/-- The session that an attempt begins with. -/
def opening (scenario : Scenario) : ResizeSession where
  handle := frameWindow
  initial := scenario.window
  wasMaximized := scenario.maximized

/-- A scene that an attempt may begin with: the frame and the maximized state are those that the
scenario began with. The layout may lag behind, but it does not where it follows at once, and it has
never seen a smaller viewport. -/
structure Opens (scenario : Scenario) (scene : Scene) : Prop where
  frame : scene.frame = scenario.window
  maximized : scene.maximized = scenario.maximized
  synced : scenario.layoutLag = 0 → scene.laidOut = scenario.view ∧ scene.pending = 0
  width : scenario.view.width.toInt ≤ scene.laidOut.width.toInt
  height : scenario.view.height.toInt ≤ scene.laidOut.height.toInt

theorem Opens.follows {scene : Scene} (hopens : Opens scenario scene) :
    Follows (opening scenario) scene where
  handle := rfl
  left := nofun
  maximized := by rw [hopens.maximized]; simp [opening]

/-- The resolution of a viewport, given what the growths of its two sides come to. -/
theorem resolveViewport_yields_of_growths (hlimited : scenario.Limited) {options : CaptureOptions}
    (hallowed : options.Allowed) (hgrants : Grants scenario) (canvas : Canvas)
    {scene widened grown : Scene} {client : Size} (hshown : scene.client scenario = client)
    (hclient : client.Nonnegative)
    (hwide : Attempt.Yields (Attempt.Within (opening scenario) (Shows scenario scene))
      (growTo host.toWindowSystem (scenario.growsWide options client)
        ⟨(scenario.targetFrame options client).width, scenario.window.height⟩) ()
      (Attempt.Within ((opening scenario).grown (scenario.growsWide options client))
        (Shows scenario widened)))
    (hsame : (widened.client scenario).height = client.height)
    (hhigh : Attempt.Yields
      (Attempt.Within ((opening scenario).grown (scenario.growsWide options client))
        (Shows scenario widened))
      (growTo host.toWindowSystem (scenario.growsHigh options client)
        (scenario.targetFrame options client)) ()
      (Attempt.Within (((opening scenario).grown (scenario.growsWide options client)).grown
        (scenario.growsHigh options client)) (Shows scenario grown)))
    {settled : Size × Scene}
    (hsettled : grown.settled scenario client (scenario.growsWide options client)
      (scenario.growsHigh options client) = settled)
    (hdrawable : 1 ≤ settled.1.width.toInt ∧ 1 ≤ settled.1.height.toInt) :
    Attempt.Yields (Attempt.Within (opening scenario) (Shows scenario scene))
      (resolveViewport host.toWindowSystem host.toDisplayedDocument options canvas scenario.view)
      {
        dimensions := {
          window := scenario.targetFrame options client
          view := scenario.targetView options client
          client := settled.1 }
        initialClient := client
        resized := scenario.grows options client }
      (Attempt.Within ((opening scenario).grown (scenario.grows options client))
        (Shows scenario settled.2)) := by
  obtain ⟨width, hplanWide, hviewWide, hwindowWide, hneedsWide, hretention⟩ :=
    hlimited.planAxis_width client hallowed hclient
  obtain ⟨height, hplanHigh, hviewHigh, hwindowHigh, hneedsHigh⟩ :=
    hlimited.planAxis_height client hallowed hclient
  have hcurrent : Action.Yields (Attempt.Within (opening scenario) (Shows scenario scene))
      Held.current (opening scenario) (Attempt.Within (opening scenario) (Shows scenario scene)) :=
    fun held hheld ↦ ⟨held, by rw [Held.current, Action.results_inspect, hheld.1], hheld⟩
  have hscroll : (scenario.scroll (widened.client scenario)).height =
      (scenario.scroll client).height := by
    rw [Scenario.scroll, hsame, Scenario.scroll]
  have hempty : ¬ (settled.1.width < 1 ∨ settled.1.height < 1) :=
    not_or.mpr ⟨Int32.not_lt.mpr (Int32.le_iff_toInt_le.mpr hdrawable.1),
      Int32.not_lt.mpr (Int32.le_iff_toInt_le.mpr hdrawable.2)⟩
  refine (Attempt.yields_act hcurrent).bind ?_
  refine (Attempt.yields_ask (metrics_yields hgrants)).bind ?_
  rw [hshown]
  refine (Attempt.yields_check hplanWide).bind ?_
  simp only [hwindowWide, hneedsWide]
  refine hwide.bind ?_
  refine (Attempt.yields_ask (metrics_yields hgrants)).bind ?_
  rw [hretention, hsame, hscroll]
  refine (Attempt.yields_check hplanHigh).bind ?_
  simp only [hwindowHigh, hneedsHigh]
  refine hhigh.bind ?_
  refine (settleClientSize_yields hgrants canvas client _ _ _).bind ?_
  rw [hsettled, ResizeSession.grown_grown, hviewWide, hviewHigh, if_neg hempty]
  exact Attempt.yields_pure

section Opening

variable {options : CaptureOptions} {scene : Scene} (hregular : scenario.Regular)
  (hallowed : options.Allowed) (hopens : Opens scenario scene)

include hregular hallowed in
/-- A side that is resized gets another length. -/
theorem targetFrame_ne (client : Size) :
    (scenario.growsWide options client = true ↔
      scenario.window.width ≠ (scenario.targetFrame options client).width) ∧
    (scenario.growsHigh options client = true ↔
      scenario.window.height ≠ (scenario.targetFrame options client).height) := by
  have hwidth := hregular.toInt_targetFrame_width client hallowed
  have hheight := hregular.toInt_targetFrame_height client hallowed
  have hwide := hregular.toInt_view_width
  have hhigh := hregular.toInt_view_height
  obtain ⟨hlessWide, hlessHigh⟩ := hregular.view_le_targetView client hallowed
  simp only [Scenario.growsWide, Scenario.growsHigh, decide_eq_true_iff, ne_eq,
    ← Int32.toInt_inj]
  omega

include hregular hallowed in
theorem window_ne_targetFrame {client : Size} (hgrows : scenario.grows options client = true) :
    scenario.window ≠ scenario.targetFrame options client := by
  obtain ⟨hmovesWide, hmovesHigh⟩ := targetFrame_ne hregular hallowed client
  intro hstill
  rcases Bool.or_eq_true_iff.mp hgrows with hwide | hhigh
  · exact hmovesWide.mp hwide (congrArg Size.width hstill)
  · exact hmovesHigh.mp hhigh (congrArg Size.height hstill)

include hopens in
/-- Growing the width leaves the height of the client area as it is. -/
theorem Opens.client_height (wide : Bool) (width : Int32) :
    ((scene.grown scenario wide ⟨width, scenario.window.height⟩).client scenario).height =
      (scene.client scenario).height := by
  cases wide with
  | false => rfl
  | true =>
    by_cases hstill : scene.frame = ⟨width, scenario.window.height⟩
    · simp only [Scene.grown, if_true, Scene.moved, if_pos hstill, Scene.client]
    · by_cases hlag : scenario.layoutLag = 0
      · simp only [Scene.grown, if_true, Scene.moved, if_neg hstill, if_pos hlag, Scene.client,
          (hopens.synced hlag).1, Scenario.view, Size.less]
      · simp only [Scene.grown, if_true, Scene.moved, if_neg hstill, if_neg hlag, Scene.client]

/-! ### What is arrived at -/

/-- Without a growth nothing is read again. -/
theorem resolved_of_still
    (hstill : scenario.grows options (scene.client scenario) = false) :
    scene.resolved scenario options = (scene.client scenario, scene) := by
  obtain ⟨hwide, hhigh⟩ := Bool.or_eq_false_iff.mp hstill
  rw [Scene.resolved, hstill, hwide, hhigh]
  rfl

include hregular hallowed hopens in
/-- The scene at the time of the first read after a growth. -/
theorem Opens.grown_eq {client : Size} (hgrows : scenario.grows options client = true) :
    scene.grown scenario (scenario.grows options client) (scenario.targetFrame options client) =
      if scenario.layoutLag = 0 then
        { scene with
          frame := scenario.targetFrame options client
          laidOut := scenario.targetView options client
          maximized := false }
      else
        { scene with
          frame := scenario.targetFrame options client
          pending := scenario.layoutLag.toNat
          maximized := false } := by
  have hmoves : scene.frame ≠ scenario.targetFrame options client := by
    rw [hopens.frame]
    exact window_ne_targetFrame hregular hallowed hgrows
  rw [hgrows, Scene.grown, if_pos rfl, Scene.moved, if_neg hmoves,
    hregular.targetFrame_less_chrome client hallowed]

include hregular hallowed in
/-- A read that shows the client area of the planned viewport settles a growth from the first. -/
theorem settles :
    ((!scenario.growsWide options scenario.client ||
        (scenario.targetClient options scenario.client).width != scenario.client.width) &&
      (!scenario.growsHigh options scenario.client ||
        (scenario.targetClient options scenario.client).height != scenario.client.height)) =
      true := by
  obtain ⟨hwidth, hheight⟩ := hregular.toInt_client
  obtain ⟨hplannedWidth, hplannedHeight⟩ := hregular.toInt_targetClient scenario.client hallowed
  rw [Bool.and_eq_true, Bool.or_eq_true, Bool.or_eq_true, Bool.not_eq_true', Bool.not_eq_true',
    bne_iff_ne, bne_iff_ne, ne_eq, ne_eq, ← Int32.toInt_inj, ← Int32.toInt_inj, hwidth, hheight,
    hplannedWidth, hplannedHeight, Scenario.growsWide, Scenario.growsHigh, decide_eq_false_iff_not,
    decide_eq_false_iff_not]
  omega

include hregular hallowed hopens in
/-- A layout that follows a growth within one recalculation is settled on: the client area is the
one of the planned viewport. -/
theorem Opens.resolved_of_prompt
    (hgrows : scenario.grows options (scene.client scenario) = true)
    (hlag : scenario.layoutLag ≤ 1) :
    scene.resolved scenario options =
      (scenario.targetClient options (scene.client scenario),
        { scene with
          frame := scenario.targetFrame options (scene.client scenario)
          laidOut := scenario.targetView options (scene.client scenario)
          pending := 0
          maximized := false }) := by
  rw [Scene.resolved, Scene.settled, if_pos (show (_ || _) = true from hgrows),
    hopens.grown_eq hregular hallowed hgrows]
  by_cases hnone : scenario.layoutLag = 0
  · obtain ⟨hlaidOut, hpending⟩ := hopens.synced hnone
    have hfirst : scene.client scenario = scenario.client := by
      rw [Scene.client, hlaidOut, Scenario.client]
    rw [hfirst, if_pos hnone, hpending, settleAttempts]
    exact if_pos (settles hregular hallowed)
  · have hone : scenario.layoutLag.toNat = 1 := by
      rw [UInt32.le_iff_toNat_le] at hlag
      rw [← UInt32.toNat_inj] at hnone
      exact Nat.le_antisymm hlag (Nat.pos_of_ne_zero hnone)
    rw [if_neg hnone, settleAttempts, Scene.settledFrom_of_old scenario (by rfl) hgrows,
      Scene.recalculated_of_one scenario (by exact hone),
      Scene.settledFrom_of_none scenario (by rfl)]
    simp only [hregular.targetFrame_less_chrome _ hallowed]
    rfl

include hregular hallowed hopens in
/-- A layout that takes more recalculations than that leaves the client area as it was. -/
theorem Opens.resolved_of_lagging
    (hgrows : scenario.grows options (scene.client scenario) = true)
    (hlag : 1 < scenario.layoutLag) :
    (scene.resolved scenario options).1 = scene.client scenario := by
  have hmore : 1 < scenario.layoutLag.toNat := UInt32.lt_iff_toNat_lt.mp hlag
  have hsome : ¬ scenario.layoutLag = 0 := by
    rw [← UInt32.toNat_inj]
    exact Nat.ne_of_gt (Nat.lt_trans Nat.zero_lt_one hmore)
  rw [Scene.resolved, Scene.settled, if_pos (show (_ || _) = true from hgrows),
    hopens.grown_eq hregular hallowed hgrows, if_neg hsome, settleAttempts,
    Scene.settledFrom_of_old scenario (by rfl) hgrows]
  refine congrArg Prod.fst (Scene.settledFrom_of_old scenario ?_ hgrows)
  rw [Scene.client, Scene.recalculated_laidOut scenario (Nat.ne_of_gt hmore)]
  rfl

include hregular hallowed hopens in
/-- Behind a resolution the layout shows what it showed before, or the planned viewport. -/
theorem Opens.resolved_laidOut :
    (scene.resolved scenario options).2.laidOut = scene.laidOut ∨
      (scene.resolved scenario options).2.laidOut =
        scenario.targetView options (scene.client scenario) := by
  cases hgrows : scenario.grows options (scene.client scenario) with
  | false => exact .inl (by rw [resolved_of_still hgrows])
  | true =>
    by_cases hlag : scenario.layoutLag = 0
    · refine .inr ?_
      rw [hopens.resolved_of_prompt hregular hallowed hgrows (by rw [hlag]; decide)]
    · rw [Scene.resolved, Scene.settled, if_pos (show (_ || _) = true from hgrows),
        hopens.grown_eq hregular hallowed hgrows, if_neg hlag]
      refine (Scene.settledFrom_laidOut scenario ..).imp_right fun hfollows ↦ ?_
      rw [hfollows]
      exact hregular.targetFrame_less_chrome _ hallowed

include hregular hopens in
/-- The client area that an attempt begins with is not empty. -/
theorem Opens.one_le_client :
    1 ≤ (scene.client scenario).width.toInt ∧ 1 ≤ (scene.client scenario).height.toInt := by
  obtain ⟨hwidth, hheight⟩ := hregular.toInt_less_insets hopens.width hopens.height
  obtain ⟨hlessWide, hlessHigh⟩ := hregular.insets_lt_view
  have hwide := hopens.width
  have hhigh := hopens.height
  rw [Scene.client, hwidth, hheight]
  omega

include hregular hallowed hopens in
/-- Neither is the one that a resolution arrives at. -/
theorem Opens.one_le_resolved :
    1 ≤ (scene.resolved scenario options).1.width.toInt ∧
      1 ≤ (scene.resolved scenario options).1.height.toInt := by
  have hfirst := hopens.one_le_client hregular
  cases hgrows : scenario.grows options (scene.client scenario) with
  | false => rwa [resolved_of_still hgrows]
  | true =>
    by_cases hlag : scenario.layoutLag ≤ 1
    · obtain ⟨hwidth, hheight⟩ := hregular.toInt_targetClient (scene.client scenario) hallowed
      obtain ⟨hlessWide, hlessHigh⟩ := hregular.insets_lt_view
      obtain ⟨hwide, hhigh⟩ := hregular.view_le_targetView (scene.client scenario) hallowed
      rw [hopens.resolved_of_prompt hregular hallowed hgrows hlag]
      simp only [hwidth, hheight]
      omega
    · rwa [hopens.resolved_of_lagging hregular hallowed hgrows (UInt32.not_le.mp hlag)]

/-! ### The resolution -/

include hregular hallowed hopens in
/-- The resolution of a viewport that an attempt begins with. -/
theorem resolveViewport_yields (hready : scenario.Ready) (canvas : Canvas) :
    Attempt.Yields (Attempt.Within (opening scenario) (Shows scenario scene))
      (resolveViewport host.toWindowSystem host.toDisplayedDocument options canvas scenario.view)
      {
        dimensions := {
          window := scenario.targetFrame options (scene.client scenario)
          view := scenario.targetView options (scene.client scenario)
          client := (scene.resolved scenario options).1 }
        initialClient := scene.client scenario
        resized := scenario.grows options (scene.client scenario) }
      (Attempt.Within ((opening scenario).grown (scenario.grows options (scene.client scenario)))
        (Shows scenario (scene.resolved scenario options).2)) := by
  obtain ⟨client, hshown⟩ : ∃ client, scene.client scenario = client := ⟨_, rfl⟩
  have hclient : client.Nonnegative := by
    obtain ⟨hwide, hhigh⟩ := hopens.one_le_client hregular
    rw [hshown] at hwide hhigh
    exact ⟨by omega, by omega⟩
  have hdrawable := hopens.one_le_resolved hregular hallowed
  rw [Scene.resolved, hshown] at hdrawable ⊢
  have hobeys := hregular.obeys hready
  obtain ⟨hmovesWide, hmovesHigh⟩ := targetFrame_ne hregular hallowed client
  have hlast := hregular.targetFrame_nonneg client hallowed
  have hbetween : Size.Nonnegative
      ⟨(scenario.targetFrame options client).width, scenario.window.height⟩ :=
    ⟨hlast.width, hobeys.window.height⟩
  obtain ⟨widened, hwidened⟩ : ∃ widened : Scene,
      scene.grown scenario (scenario.growsWide options client)
        ⟨(scenario.targetFrame options client).width, scenario.window.height⟩ = widened := ⟨_, rfl⟩
  have hframe : widened.frame.height = scenario.window.height := by
    rw [← hwidened, Scene.grown]
    split
    · rw [Scene.moved_frame]
    · rw [hopens.frame]
  have hgrown : widened.grown scenario (scenario.growsHigh options client)
      (scenario.targetFrame options client) = scene.grown scenario (scenario.grows options client)
        (scenario.targetFrame options client) := by
    rw [← hwidened]
    refine Scene.grown_grown scenario (fun hstays ↦ ?_) fun hgrows ↦ ?_
    · have hequal : scenario.window.height = (scenario.targetFrame options client).height :=
        Decidable.byContradiction fun hmoves ↦ by simp [hmovesHigh.mpr hmoves] at hstays
      rw [hequal]
    · rw [hopens.frame]
      exact fun hstill ↦ hmovesHigh.mp hgrows (congrArg Size.height hstill)
  have hleavesWide : scenario.growsWide options client = true →
      scene.frame ≠ ⟨(scenario.targetFrame options client).width, scenario.window.height⟩ := by
    rw [hopens.frame]
    intro hgrows hstill
    have hequal := congrArg Size.width hstill
    exact hmovesWide.mp hgrows hequal
  have hleavesHigh : scenario.growsHigh options client = true →
      widened.frame ≠ scenario.targetFrame options client := by
    intro hgrows hstill
    rw [hstill] at hframe
    exact hmovesHigh.mp hgrows hframe.symm
  have hwide := growTo_yields hobeys hopens.follows hbetween hleavesWide
  have hhigh := growTo_yields hobeys (hwidened ▸ hopens.follows.grown _ _) hlast hleavesHigh
  rw [hwidened] at hwide
  rw [hgrown] at hhigh
  refine resolveViewport_yields_of_growths hregular.limited hallowed hobeys.toGrants canvas hshown
    hclient hwide ?_ hhigh rfl hdrawable
  rw [← hwidened, hopens.client_height, hshown]

end Opening

end SimulatedBrowser

end PageCapture
