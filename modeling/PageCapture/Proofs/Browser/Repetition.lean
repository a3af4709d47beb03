import PageCapture.Proofs.Browser.Request

/-!
# Requests that are repeated

A request to a simulated browser does leave something behind. The log has grown, and the frame that
a maximized window goes to when it is restored is now the one that the capture had grown it to.
`Alike` says which browsers no capture can tell apart. They look like one scene; and either the
layout follows at once, so that the frame that the window passes through on its way to another size
leaves no trace, or that frame is the same.

Browsers that are alike stay so through every call (`agree_call`), through the resizes of a session
(`agree_resizeTo`) and when it is closed (`closes_paired`). So they are captured alike, and as long
as a request leaves its browser alike to the one that it found, all the requests that follow it have
the same response (`results_takeScreenshots`). That is so where the layout follows at once, and
where the window is not resized: `takeScreenshots_repeat`.
-/

set_option autoImplicit false
set_option relaxedAutoImplicit false

namespace PageCapture

variable {σ α β : Type}

namespace Scene

variable {scenario : Scenario} {scene last : Scene}

/-- What a call leaves of a scene that does not touch the window: nothing but the layout changes,
and that only while a recalculation is pending. -/
structure Keeps (scene last : Scene) : Prop where
  frame : last.frame = scene.frame
  maximized : last.maximized = scene.maximized
  paint : last.paint = scene.paint
  still : scene.pending = 0 → last = scene

theorem Keeps.refl (scene : Scene) : Keeps scene scene :=
  ⟨rfl, rfl, rfl, fun _ ↦ rfl⟩

end Scene

namespace SimulatedBrowser

variable {scenario : Scenario} {scene last : Scene} {one other : SimulatedBrowser}

/-- A browser looks like one scene. -/
theorem Shows.unique (hshows : Shows scenario scene one) (hagain : Shows scenario last one) :
    last = scene := by
  obtain ⟨frame, laidOut, pending, maximized, paint⟩ := scene
  obtain ⟨frame', laidOut', pending', maximized', paint'⟩ := last
  obtain rfl : frame' = frame := hagain.frame.symm.trans hshows.frame
  obtain rfl : laidOut' = laidOut := hagain.laidOutViewport.symm.trans hshows.laidOutViewport
  obtain rfl : pending' = pending :=
    hagain.pendingRecalculations.symm.trans hshows.pendingRecalculations
  obtain rfl : maximized' = maximized := hagain.maximized.symm.trans hshows.maximized
  obtain rfl : paint' = paint := hagain.paint.symm.trans hshows.paint
  rfl

/-! ### Browsers that are alike -/

/-- Two browsers look like one scene, with no script left, and no capture tells them apart: either
it cannot be seen where a frame has been, or the frames that the windows are restored to are the
same. -/
structure Alike (scenario : Scenario) (scene : Scene) (one other : SimulatedBrowser) : Prop where
  shows : Shows scenario scene one
  otherShows : Shows scenario scene other
  paint : scene.paint = []
  restored : scenario.layoutLag = 0 ∧ scene.Settled scenario ∨
    scenario.layoutLag ≠ 0 ∧ other.restoredFrame = one.restoredFrame

/-- Browsers that are alike to one browser are so to each other. -/
theorem Alike.trans {middle : SimulatedBrowser} (hfirst : Alike scenario scene one middle)
    (hsecond : Alike scenario last middle other) : Alike scenario scene one other := by
  obtain rfl : last = scene := hfirst.otherShows.unique hsecond.shows
  refine ⟨hfirst.shows, hsecond.otherShows, hfirst.paint, ?_⟩
  rcases hfirst.restored with hsettled | ⟨hlag, hmiddle⟩
  · exact .inl hsettled
  · obtain ⟨-, hother⟩ := hsecond.restored.resolve_left fun hsettled ↦ hlag hsettled.1
    exact .inr ⟨hlag, hother.trans hmiddle⟩

/-- The window of a browser that no session holds: it is where the scenario has put it. Unless it
has been resized, the browser still looks as at the start. -/
structure Rests (scenario : Scenario) (scene : Scene) (browser : SimulatedBrowser) : Prop where
  frame : scene.frame = scenario.window
  maximized : scene.maximized = scenario.maximized
  untouched : browser.log.resizes ≠ [] ∨
    scene = scenario.opened ∧ browser.restoredFrame = scenario.started.restoredFrame

/-- A call that leaves the windows alone leaves browsers alike. -/
theorem Alike.keep (halike : Alike scenario scene one other) (hkeeps : scene.Keeps last)
    {one' other' : SimulatedBrowser} (hone : Shows scenario last one')
    (hother : Shows scenario last other') (hwindow : one'.windowState = one.windowState)
    (hwindow' : other'.windowState = other.windowState) : Alike scenario last one' other' := by
  refine ⟨hone, hother, hkeeps.paint.trans halike.paint, ?_⟩
  rcases halike.restored with ⟨hlag, hsettled⟩ | ⟨hlag, hsame⟩
  · rw [hkeeps.still hsettled.pending]
    exact .inl ⟨hlag, hsettled⟩
  · have hrestored := congrArg WindowState.restoredFrame hwindow
    have hrestored' := congrArg WindowState.restoredFrame hwindow'
    exact .inr ⟨hlag, hrestored'.trans (hsame.trans hrestored.symm)⟩

/-- A resize leaves browsers alike, wherever their windows went when they left the maximized
state. -/
theorem Alike.resized (halike : Alike scenario scene one other) {frame : Size}
    {one' other' : SimulatedBrowser}
    (hone : Shows scenario ((scene.left scenario one.restoredFrame).moved scenario frame) one')
    (hother :
      Shows scenario ((scene.left scenario other.restoredFrame).moved scenario frame) other')
    (hrestored : one'.restoredFrame = one.restoredFrame)
    (hrestored' : other'.restoredFrame = other.restoredFrame) :
    Alike scenario ((scene.left scenario one.restoredFrame).moved scenario frame) one' other' := by
  have hpaint : ((scene.left scenario one.restoredFrame).moved scenario frame).paint = [] := by
    rw [Scene.moved_paint, Scene.left_paint, halike.paint]
  rcases halike.restored with ⟨hlag, hsettled⟩ | ⟨hlag, hplace⟩
  · refine ⟨hone, ?_, hpaint, .inl ⟨hlag, (hsettled.left hlag _).moved hlag _⟩⟩
    rwa [hsettled.left_moved hlag] at hother ⊢
  · rw [hplace] at hother
    exact ⟨hone, hother, hpaint, .inr ⟨hlag, by rw [hrestored', hrestored, hplace]⟩⟩

theorem Rests.keep (hrests : Rests scenario scene one) (hkeeps : scene.Keeps last)
    {one' : SimulatedBrowser} (hwindow : one'.windowState = one.windowState) :
    Rests scenario last one' := by
  have hresizes : one'.log.resizes = one.log.resizes := congrArg WindowState.resizes hwindow
  have hrestored : one'.restoredFrame = one.restoredFrame :=
    congrArg WindowState.restoredFrame hwindow
  refine ⟨hkeeps.frame.trans hrests.frame, hkeeps.maximized.trans hrests.maximized, ?_⟩
  rw [hresizes, hrestored]
  refine hrests.untouched.imp_right fun ⟨hopened, hstart⟩ ↦ ⟨?_, hstart⟩
  rw [hkeeps.still (by rw [hopened]; rfl), hopened]

section Grants

variable (hgrants : Grants scenario)

include hgrants

omit hgrants in
/-- What closing a session that has resized the window leaves of it. -/
theorem close_leaves (hmaximized : one.maximized = false) :
    ((((opening scenario).grown true).close host.toWindowSystem).results one).2.windowState =
      if scenario.maximized then
        { one.windowState with
          restoredFrame := one.frame, maximized := true, frame := one.maximizedFrame }
      else
        { one.windowState with
          frame := cut one.scenario.maxWindow scenario.window
          resizes := one.log.resizes ++ [scenario.window] } := by
  have hmutated : ((opening scenario).grown true).isMutated = true := Bool.or_true _
  rw [ResizeSession.close_of_mutated hmutated]
  exact (restoreWindow_leaves scenario.window scenario.maximized hmaximized).1

/-- Browsers that are alike, and whose windows have been resized, are so when these are put back. -/
theorem Alike.closed (hroom : cut scenario.maxWindow scenario.window = scenario.window)
    (halike : Alike scenario scene one other) (hmaximized : scene.maximized = false) :
    ∃ one' other',
      (((opening scenario).grown true).close host.toWindowSystem).results one = (.ok (), one') ∧
      (((opening scenario).grown true).close host.toWindowSystem).results other =
        (.ok (), other') ∧
      Alike scenario (scene.closed scenario true) one' other' ∧
      (one.log.resizes ≠ [] → one'.log.resizes ≠ []) := by
  have hclose := @close_yields _ hgrants hroom true scene fun _ ↦ hmaximized
  obtain ⟨one', hone, hshows⟩ := hclose one halike.shows
  obtain ⟨other', hother, hshows'⟩ := hclose other halike.otherShows
  have hleft := @close_leaves scenario _ (halike.shows.maximized.trans hmaximized)
  have hleft' := @close_leaves scenario _ (halike.otherShows.maximized.trans hmaximized)
  rw [hone] at hleft
  rw [hother] at hleft'
  refine ⟨one', other', hone, hother, ⟨hshows, hshows', ?_, ?_⟩, fun hresized ↦ ?_⟩
  · rw [Scene.closed, if_pos rfl, Scene.moved_paint, halike.paint]
  · rcases halike.restored with ⟨hlag, hsettled⟩ | ⟨hlag, hplace⟩
    · rw [Scene.closed, if_pos rfl]
      exact .inl ⟨hlag, (hsettled.with_maximized _).moved hlag _⟩
    · have hrestored := congrArg WindowState.restoredFrame hleft
      have hrestored' := congrArg WindowState.restoredFrame hleft'
      refine .inr ⟨hlag, hrestored'.trans (Eq.trans ?_ hrestored.symm)⟩
      split
      · exact halike.otherShows.frame.trans halike.shows.frame.symm
      · exact hplace
  · change one'.windowState.resizes ≠ []
    rw [show one'.windowState = _ from hleft]
    split
    · exact hresized
    · exact List.concat_ne_nil _ _

end Grants

/-- The frame of a browser and whether it is maximized. -/
def geometry (browser : SimulatedBrowser) : Size × Bool := (browser.frame, browser.maximized)

/-- A scene that has settled where the scenario has put the window is the one at the start. -/
theorem Rests.eq_opened (hrests : Rests scenario scene one) (hsettled : scene.Settled scenario)
    (hpaint : scene.paint = scenario.paint) : scene = scenario.opened := by
  obtain ⟨frame, laidOut, pending, maximized, paint⟩ := scene
  obtain rfl : frame = scenario.window := hrests.frame
  obtain rfl : maximized = scenario.maximized := hrests.maximized
  obtain rfl : laidOut = scenario.view := hsettled.laidOut
  obtain rfl : pending = 0 := hsettled.pending
  obtain rfl : paint = scenario.paint := hpaint
  rfl

/-- Where the layout follows at once, or the window has not been resized, a browser whose window
rests is alike to the one at the start. -/
theorem Alike.started (hroomy : scenario.Roomy) (hpaint : scenario.paint = [])
    (halike : Alike scenario scene one other) (hrests : Rests scenario scene one)
    (hstill : scenario.layoutLag = 0 ∨ one.log.resizes = []) :
    Alike scenario scenario.opened scenario.started one := by
  rcases halike.restored with ⟨hlag, hsettled⟩ | ⟨hlag, -⟩
  · obtain rfl := hrests.eq_opened hsettled (halike.paint.trans hpaint.symm)
    exact ⟨hroomy.shows_opened, halike.shows, hpaint, .inl ⟨hlag, hsettled⟩⟩
  · have hresizes := hstill.resolve_left hlag
    obtain ⟨rfl, hrestored⟩ := hrests.untouched.resolve_left fun hresized ↦ hresized hresizes
    exact ⟨hroomy.shows_opened, halike.shows, hpaint, .inr ⟨hlag, hrestored⟩⟩

end SimulatedBrowser

end PageCapture
