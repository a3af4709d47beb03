import PageCapture.Proofs.Browser.Window

/-!
# Scenes of a simulated browser

What a capture can notice of a simulated browser is its frame, the viewport that was laid out, the
number of recalculations that are pending, whether it is maximized, and what comes of the next
drawings. A `Scene` keeps that and leaves out the log and the restored frame; `Shows` says which
browsers look like a scene.

Each call has its contract over scenes. The calls that change the frame come to `Scene.moved`, and a
recalculation to `Scene.recalculated`. A frame that has moved twice looks as if it had moved to its
last place at once (`Scene.moved_moved`): that is why the restored frame, which a maximized window
takes on its way to another size, leaves no trace.
-/

set_option autoImplicit false
set_option relaxedAutoImplicit false

namespace PageCapture

/-! ### Sizes -/

/-- What one size leaves of another, and never less than nothing. -/
def Size.less (outer inner : Size) : Size :=
  ⟨max (outer.width - inner.width) 0, max (outer.height - inner.height) 0⟩

namespace Size.Nonnegative

variable {outer inner : Size} (houter : outer.Nonnegative) (hinner : inner.Nonnegative)

include houter hinner

theorem width_less :
    (outer.less inner).width.toInt = max (outer.width.toInt - inner.width.toInt) 0 := by
  rw [Size.less, toInt_max_zero, toInt_subtract houter.width hinner.width]

theorem height_less :
    (outer.less inner).height.toInt = max (outer.height.toInt - inner.height.toInt) 0 := by
  rw [Size.less, toInt_max_zero, toInt_subtract houter.height hinner.height]

theorem less : (outer.less inner).Nonnegative where
  width := by rw [houter.width_less hinner]; omega
  height := by rw [houter.height_less hinner]; omega

/-- A size leaves more of a greater one. -/
theorem less_mono {greater : Size} (hgreater : greater.Nonnegative)
    (hwidth : outer.width.toInt ≤ greater.width.toInt)
    (hheight : outer.height.toInt ≤ greater.height.toInt) :
    (outer.less inner).width.toInt ≤ (greater.less inner).width.toInt ∧
      (outer.less inner).height.toInt ≤ (greater.less inner).height.toInt := by
  rw [houter.width_less hinner, houter.height_less hinner, hgreater.width_less hinner,
    hgreater.height_less hinner]
  omega

/-- The viewport of a frame can be computed. -/
theorem viewportOf : SimulatedBrowser.viewportOf outer inner = .ok (outer.less inner) := by
  unfold SimulatedBrowser.viewportOf
  rw [Checked.subtract_of_nonneg houter.width hinner.width,
    Checked.subtract_of_nonneg houter.height hinner.height]
  rfl

end Size.Nonnegative

/-! ### Scenes -/

/-- What can be noticed of a simulated browser. -/
structure Scene where
  frame : Size
  laidOut : Size
  pending : Nat
  maximized : Bool
  paint : List PaintOutcome

/-- The extent of the content that the layout reports beside a client area. -/
def Scenario.scroll (scenario : Scenario) (client : Size) : Size :=
  ⟨max scenario.content.width client.width, max scenario.content.height client.height⟩

namespace Scene

variable (scenario : Scenario)

/-- The scene once the frame has been given a size. -/
def moved (frame : Size) (scene : Scene) : Scene :=
  if scene.frame = frame then scene
  else if scenario.layoutLag = 0 then
    { scene with frame, laidOut := frame.less scenario.chrome }
  else { scene with frame, pending := scenario.layoutLag.toNat }

/-- The scene after a recalculation. -/
def recalculated (scene : Scene) : Scene :=
  match scene.pending with
  | 0 => scene
  | 1 => { scene with pending := 0, laidOut := scene.frame.less scenario.chrome }
  | pending + 2 => { scene with pending := pending + 1 }

/-- The client area that the layout shows. -/
def client (scene : Scene) : Size := scene.laidOut.less scenario.clientInsets

/-- The scene once the next outcome of a drawing has been used up. -/
def painted (scene : Scene) : Scene :=
  { scene with paint := scene.paint.tail }

@[simp]
theorem moved_frame (frame : Size) (scene : Scene) :
    (scene.moved scenario frame).frame = frame := by
  unfold moved
  split
  · assumption
  · split <;> rfl

@[simp]
theorem moved_paint (frame : Size) (scene : Scene) :
    (scene.moved scenario frame).paint = scene.paint := by
  unfold moved
  split
  · rfl
  · split <;> rfl

@[simp]
theorem moved_maximized (frame : Size) (scene : Scene) :
    (scene.moved scenario frame).maximized = scene.maximized := by
  unfold moved
  split
  · rfl
  · split <;> rfl

@[simp]
theorem recalculated_frame (scene : Scene) : (scene.recalculated scenario).frame = scene.frame := by
  unfold recalculated
  split <;> rfl

@[simp]
theorem recalculated_paint (scene : Scene) : (scene.recalculated scenario).paint = scene.paint := by
  unfold recalculated
  split <;> rfl

@[simp]
theorem recalculated_maximized (scene : Scene) :
    (scene.recalculated scenario).maximized = scene.maximized := by
  unfold recalculated
  split <;> rfl

/-- Without a pending recalculation the layout is up to date. -/
theorem recalculated_of_none {scene : Scene} (hpending : scene.pending = 0) :
    scene.recalculated scenario = scene := by
  rw [recalculated, hpending]

/-- The last pending recalculation brings the layout up to the frame. -/
theorem recalculated_of_one {scene : Scene} (hpending : scene.pending = 1) :
    scene.recalculated scenario =
      { scene with pending := 0, laidOut := scene.frame.less scenario.chrome } := by
  rw [recalculated, hpending]

/-- Any other recalculation leaves the layout as it is. -/
theorem recalculated_laidOut {scene : Scene} (hpending : scene.pending ≠ 1) :
    (scene.recalculated scenario).laidOut = scene.laidOut := by
  unfold recalculated
  split
  · rfl
  · contradiction
  · rfl

/-- A frame that does not return to where it was looks as if it had moved there at once. -/
theorem moved_moved {between last : Size} {scene : Scene} (hlast : scene.frame ≠ last) :
    (scene.moved scenario between).moved scenario last = scene.moved scenario last := by
  unfold moved
  by_cases hstill : scene.frame = between
  · simp only [if_pos hstill]
  · by_cases hlag : scenario.layoutLag = 0
    · simp only [if_neg hstill, if_pos hlag, if_neg hlast]
      split
      · rename_i hsame
        rw [hsame]
      · rfl
    · simp only [if_neg hstill, if_neg hlag, if_neg hlast]
      split
      · rename_i hsame
        rw [hsame]
      · rfl

end Scene

namespace SimulatedBrowser

/-- A scenario in which the calls are granted, though a frame may be cut to less than was asked
for. -/
structure Grants (scenario : Scenario) : Prop where
  chrome : scenario.chrome.Nonnegative
  clientInsets : scenario.clientInsets.Nonnegative
  window : scenario.window.Nonnegative
  limit : ∀ limit, scenario.maxWindow = some limit → limit.Nonnegative
  hasCanvas : scenario.hasCanvas = true
  windowSizeFails : scenario.windowSizeFails = false

/-- A scenario in which the calls do what they are asked to. -/
structure Obeys (scenario : Scenario) : Prop extends Grants scenario where
  maxWindow : scenario.maxWindow = none

/-- The size that a frame takes when it is asked to take one. -/
theorem Grants.cut {scenario : Scenario} (hgrants : Grants scenario) {size : Size}
    (hsize : size.Nonnegative) : (cut scenario.maxWindow size).Nonnegative := by
  unfold SimulatedBrowser.cut
  cases hlimit : scenario.maxWindow with
  | none => exact hsize
  | some limit =>
    obtain ⟨hwidth, hheight⟩ := hgrants.limit limit hlimit
    exact ⟨by rw [toInt_min]; exact Int.le_min.mpr ⟨hsize.width, hwidth⟩,
      by rw [toInt_min]; exact Int.le_min.mpr ⟨hsize.height, hheight⟩⟩

theorem Obeys.cut_eq {scenario : Scenario} (hobeys : Obeys scenario) (size : Size) :
    SimulatedBrowser.cut scenario.maxWindow size = size := by
  rw [hobeys.maxWindow, SimulatedBrowser.cut]

/-- A browser in a scenario looks like a scene. -/
structure Shows (scenario : Scenario) (scene : Scene) (browser : SimulatedBrowser) : Prop where
  runs : browser.scenario = scenario
  frame : browser.frame = scene.frame
  laidOutViewport : browser.laidOutViewport = scene.laidOut
  pendingRecalculations : browser.pendingRecalculations = scene.pending
  maximized : browser.maximized = scene.maximized
  paint : browser.paint = scene.paint
  maximizedFrame : browser.maximizedFrame = scenario.window
  restoredFrame : browser.restoredFrame.Nonnegative
  nonnegative : scene.frame.Nonnegative
  laidOut : scene.laidOut.Nonnegative

/-! ### The calls -/

section Calls

variable {scenario : Scenario} (hgrants : Grants scenario) {scene : Scene}

include hgrants

theorem viewport_yields : Action.Yields (Shows scenario scene) viewport
    (scene.frame.less scenario.chrome) (Shows scenario scene) := by
  intro browser hshows
  refine ⟨browser, ?_, hshows⟩
  rw [viewport, Action.results_ofResults, hshows.runs, hshows.frame,
    hshows.nonnegative.viewportOf hgrants.chrome]

omit hgrants in
theorem note_yields (change : CallLog → CallLog) :
    Action.Yields (Shows scenario scene) (note change) () (Shows scenario scene) := by
  intro browser hshows
  exact ⟨_, rfl, { hshows with }⟩

/-- Giving the frame a size. -/
theorem applyFrame_yields {frame : Size} (hframe : frame.Nonnegative) :
    Action.Yields (Shows scenario scene) (applyFrame frame) ()
      (Shows scenario (scene.moved scenario frame)) := by
  intro browser hshows
  obtain rfl := hshows.runs
  unfold applyFrame
  rw [Action.bind_results, Action.results_inspect, id_eq]
  by_cases hstill : scene.frame = frame
  · refine ⟨browser, ?_, ?_⟩
    · simp [hshows.frame, hstill]
    · rwa [Scene.moved, if_pos hstill]
  · have hmoves : browser.frame ≠ frame := by rwa [hshows.frame]
    refine ⟨layOut (frame.less browser.scenario.chrome) { browser with frame }, ?_, ?_⟩
    · simp only [ne_eq, hmoves, not_false_eq_true, if_true]
      rw [Action.bind_results, Action.results_change]
      simp only
      rw [Action.bind_results, viewport, Action.results_ofResults]
      simp only [hframe.viewportOf hgrants.chrome]
      rfl
    · rw [Scene.moved, if_neg hstill, layOut]
      split
      · exact { hshows with
          frame := rfl, laidOutViewport := rfl, nonnegative := hframe
          laidOut := hframe.less hgrants.chrome }
      · exact { hshows with
          frame := rfl, pendingRecalculations := rfl, nonnegative := hframe }

theorem windowSize_frame_yields : Action.Yields (Shows scenario scene) (windowSize frameWindow)
    (.ok scene.frame) (Shows scenario scene) := by
  intro browser hshows
  refine ⟨browser, ?_, hshows⟩
  rw [windowSize, onWindow, if_pos (.inl rfl), Action.bind_results, Action.results_inspect, id_eq]
  simp [hshows.runs, hshows.frame, hgrants.windowSizeFails, frameWindow, contentWindow]

theorem windowSize_content_yields : Action.Yields (Shows scenario scene) (windowSize contentWindow)
    (.ok (scene.frame.less scenario.chrome)) (Shows scenario scene) := by
  intro browser hshows
  obtain ⟨last, hview, hlast⟩ := viewport_yields hgrants browser hshows
  refine ⟨last, ?_, hlast⟩
  rw [windowSize, onWindow, if_pos (.inr rfl), Action.bind_results, Action.results_inspect, id_eq]
  simp only [hshows.runs, hgrants.windowSizeFails, Bool.false_eq_true, if_false, if_true]
  rw [Action.bind_results, hview]
  rfl

/-- A frame that is not maximized takes the size, or what the limit leaves of it. -/
theorem setWindowSize_yields {size : Size} (hsize : size.Nonnegative)
    (hmaximized : scene.maximized = false) :
    Action.Yields (Shows scenario scene) (setWindowSize frameWindow size) (.ok ())
      (Shows scenario (scene.moved scenario (cut scenario.maxWindow size))) := by
  rw [setWindowSize, onWindow, if_pos (.inl rfl)]
  refine (note_yields _).bind ?_
  intro browser hshows
  obtain ⟨last, happly, hlast⟩ := applyFrame_yields hgrants (hgrants.cut hsize) browser hshows
  refine ⟨last, ?_, hlast⟩
  rw [Action.bind_results, Action.results_inspect, id_eq]
  simp only [hshows.maximized, hmaximized, hshows.runs, Bool.not_false, if_true]
  rw [Action.bind_results, happly]
  rfl

/-- A window that leaves the maximized state moves to its restored frame, wherever that is. -/
theorem showRestored_gives : Action.Gives (Shows scenario scene) showRestored fun _ last ↦
    Shows scenario ({ scene with maximized := false }.moved scenario last.restoredFrame) last := by
  intro browser hshows
  have hleft : Shows scenario { scene with maximized := false }
      { browser with
        maximized := false
        log := { browser.log with demaximizeCalls := browser.log.demaximizeCalls + 1 } } :=
    { hshows with maximized := rfl }
  obtain ⟨last, happly, hlast⟩ := applyFrame_yields hgrants hshows.restoredFrame _ hleft
  have hsame : last.restoredFrame = browser.restoredFrame := by
    have hstate := congrArg WindowState.restoredFrame (showRestored_leaves browser).1
    rwa [show showRestored.results browser = (.ok (), last) from happly] at hstate
  rw [← hsame] at hlast
  exact ⟨(), last, happly, hlast⟩

/-- A window that is maximized takes the frame that it began with. -/
theorem maximize_yields : Action.Yields (Shows scenario scene) maximize ()
    (Shows scenario ({ scene with maximized := true }.moved scenario scenario.window)) := by
  intro browser hshows
  have hrestored :
      (if browser.maximized then browser.restoredFrame else browser.frame).Nonnegative := by
    split
    · exact hshows.restoredFrame
    · exact hshows.frame ▸ hshows.nonnegative
  have hentered : Shows scenario { scene with maximized := true }
      { browser with
        restoredFrame := if browser.maximized then browser.restoredFrame else browser.frame
        maximized := true
        log := { browser.log with maximizeCalls := browser.log.maximizeCalls + 1 } } :=
    { hshows with maximized := rfl, restoredFrame := hrestored }
  obtain ⟨last, happly, hlast⟩ := applyFrame_yields hgrants hgrants.window _ hentered
  refine ⟨last, ?_, hlast⟩
  rw [← happly, ← hshows.maximizedFrame]
  rfl

/-- What the layout says of the viewport that was laid out. -/
theorem metrics_yields : Action.Yields (Shows scenario scene) metrics
    (.ok ⟨scene.client scenario, scenario.scroll (scene.client scenario)⟩)
    (Shows scenario scene) := by
  intro browser hshows
  refine ⟨browser, ?_, hshows⟩
  unfold metrics
  rw [Action.bind_results, Action.results_inspect, id_eq]
  simp only [hshows.runs, hgrants.hasCanvas, Bool.not_true, Bool.false_eq_true, if_false,
    hshows.laidOutViewport]
  rw [Action.bind_results, Action.results_check, hshows.laidOut.viewportOf hgrants.clientInsets]
  rfl

theorem forceRecalculate_yields (force : Bool) :
    Action.Yields (Shows scenario scene) (forceRecalculate force) (.ok ())
      (Shows scenario (scene.recalculated scenario)) := by
  refine (viewport_yields hgrants).bind ((note_yields _).bind ?_)
  intro browser hshows
  refine ⟨_, rfl, ?_⟩
  unfold Scene.recalculated
  rw [← hshows.pendingRecalculations]
  dsimp only
  rcases browser.pendingRecalculations with _ | _ | pending
  · exact hshows
  · exact { hshows with
      laidOutViewport := rfl, pendingRecalculations := rfl
      laidOut := hshows.nonnegative.less hgrants.chrome }
  · exact { hshows with pendingRecalculations := rfl }

end Calls

end SimulatedBrowser

end PageCapture
