import PageCapture.Proofs.Browser.Scene
import PageCapture.Proofs.Window.Session

/-!
# Growing and settling

How a scene changes while a session grows the frame. `Scene.grown` is what a growth makes of it: a
maximized window leaves that state, and the frame moves. `Scene.settledFrom` follows the layout
through the reads behind the growth, each of which is followed by a recalculation if it shows the
old client area. Both say what the calls come to (`growTo_yields`, `settleClientSize_yields`).

`resizeTo_gives` is what one resize comes to where the frame may be cut to less than was asked for.
It names the frame that the window passes through when it leaves the maximized state (`Scene.left`).
Where the layout follows at once that frame leaves no trace (`Scene.Settled.left_moved`), and a
growth comes to what the limit leaves of the planned frame (`growTo_yields_of_settled`).
-/

set_option autoImplicit false
set_option relaxedAutoImplicit false

namespace PageCapture

/-! ### Growing -/

/-- A scene once the frame has been resized, if it has. -/
def Scene.grown (scenario : Scenario) (grew : Bool) (frame : Size) (scene : Scene) : Scene :=
  if grew then { scene with maximized := false }.moved scenario frame else scene

theorem Scene.grown_paint (scenario : Scenario) (grew : Bool) (frame : Size) (scene : Scene) :
    (scene.grown scenario grew frame).paint = scene.paint := by
  unfold grown
  split
  · rw [moved_paint]
  · rfl

/-- A second growth hides the first. -/
theorem Scene.grown_grown (scenario : Scenario) {wide high : Bool} {between last : Size}
    {scene : Scene} (hbetween : high = false → between = last)
    (hlast : high = true → scene.frame ≠ last) :
    (scene.grown scenario wide between).grown scenario high last =
      scene.grown scenario (wide || high) last := by
  cases high with
  | false => cases wide <;> simp [grown, hbetween rfl]
  | true =>
    cases wide with
    | false => rfl
    | true =>
      have hmoved : ∀ moved : Scene, moved.maximized = false →
          { moved with maximized := false } = moved := by
        rintro ⟨⟩ rfl
        rfl
      simp only [grown, Bool.or_true, if_true]
      rw [hmoved _ (by simp)]
      exact moved_moved scenario (hlast rfl)

/-- A scene once the window has left the maximized state, if it was in it. -/
def Scene.left (scenario : Scenario) (restored : Size) (scene : Scene) : Scene :=
  if scene.maximized then { scene with maximized := false }.moved scenario restored else scene

theorem Scene.left_maximized (scenario : Scenario) (restored : Size) (scene : Scene) :
    (scene.left scenario restored).maximized = false := by
  cases hmaximized : scene.maximized <;> simp [left, hmaximized]

theorem Scene.left_paint (scenario : Scenario) (restored : Size) (scene : Scene) :
    (scene.left scenario restored).paint = scene.paint := by
  unfold left
  split
  · rw [moved_paint]
  · rfl

/-- A frame that goes somewhere else hides which one the window was restored to. -/
theorem Scene.left_moved (scenario : Scenario) (restored : Size) {last : Size} {scene : Scene}
    (hlast : scene.frame ≠ last) :
    (scene.left scenario restored).moved scenario last = scene.grown scenario true last := by
  rw [grown, if_pos rfl]
  cases hmaximized : scene.maximized with
  | true =>
    rw [left, if_pos hmaximized]
    exact moved_moved scenario hlast
  | false =>
    rw [left, if_neg (by rw [hmaximized]; exact Bool.false_ne_true), ← hmaximized]

/-! ### Layouts that follow at once -/

namespace Scene

variable {scenario : Scenario} {scene : Scene}

/-- The layout has followed the frame. -/
structure Settled (scenario : Scenario) (scene : Scene) : Prop where
  laidOut : scene.laidOut = scene.frame.less scenario.chrome
  pending : scene.pending = 0

theorem Settled.with_maximized (hsettled : scene.Settled scenario) (maximized : Bool) :
    ({ scene with maximized } : Scene).Settled scenario :=
  ⟨hsettled.laidOut, hsettled.pending⟩

section Settled

variable (hsettled : scene.Settled scenario) (hlag : scenario.layoutLag = 0)

include hsettled hlag

/-- Where the layout follows at once, a scene that has settled shows its frame and nothing of where
that has been. -/
theorem Settled.moved_eq (frame : Size) :
    scene.moved scenario frame = { scene with frame, laidOut := frame.less scenario.chrome } := by
  by_cases hsame : scene.frame = frame
  · rw [Scene.moved, if_pos hsame, ← hsame, ← hsettled.laidOut]
  · rw [Scene.moved, if_neg hsame, if_pos hlag]

theorem Settled.moved (frame : Size) : (scene.moved scenario frame).Settled scenario := by
  rw [hsettled.moved_eq hlag]
  exact ⟨rfl, hsettled.pending⟩

theorem Settled.left (restored : Size) : (scene.left scenario restored).Settled scenario := by
  unfold Scene.left
  split
  · exact (hsettled.with_maximized false).moved hlag restored
  · exact hsettled

/-- It does not matter which frame the window was restored to. -/
theorem Settled.left_moved (restored frame : Size) :
    (scene.left scenario restored).moved scenario frame =
      { scene with frame, laidOut := frame.less scenario.chrome, maximized := false } := by
  rw [(hsettled.left hlag restored).moved_eq hlag]
  unfold Scene.left
  cases hmaximized : scene.maximized with
  | false => simp [hmaximized]
  | true =>
    rw [if_pos rfl, (hsettled.with_maximized false).moved_eq hlag]

/-- What a growth makes of the scene. -/
theorem Settled.grown_eq (frame : Size) :
    scene.grown scenario true frame =
      { scene with frame, laidOut := frame.less scenario.chrome, maximized := false } :=
  (hsettled.with_maximized false).moved_eq hlag frame

theorem Settled.grown (grew : Bool) (frame : Size) :
    (scene.grown scenario grew frame).Settled scenario := by
  cases grew with
  | false => exact hsettled
  | true => exact (hsettled.with_maximized false).moved hlag frame

/-- A second growth hides the first, also where it returns to the frame at the start. -/
theorem Settled.grown_grown {wide high : Bool} {between last : Size}
    (hbetween : high = false → between = last) :
    (scene.grown scenario wide between).grown scenario high last =
      scene.grown scenario (wide || high) last := by
  cases high with
  | false => rw [hbetween rfl, Bool.or_false]; rfl
  | true =>
    rw [Bool.or_true, (hsettled.grown hlag wide between).grown_eq hlag, hsettled.grown_eq hlag]
    cases wide with
    | false => rfl
    | true => rw [hsettled.grown_eq hlag]

end Settled

end Scene

namespace SimulatedBrowser

variable {scenario : Scenario} {scene : Scene} {session : ResizeSession}

/-- The session is one on the frame, and knows whether the window is maximized now. -/
structure Follows (session : ResizeSession) (scene : Scene) : Prop where
  handle : session.handle = frameWindow
  left : session.demaximized = true → session.wasMaximized = true
  maximized : scene.maximized = (session.wasMaximized && !session.demaximized)

theorem Follows.grown (hfollows : Follows session scene) (grew : Bool) (frame : Size) :
    Follows (session.grown grew) (scene.grown scenario grew frame) := by
  cases grew with
  | false => exact hfollows
  | true => exact ⟨hfollows.handle, id, by simp [Scene.grown, ResizeSession.grown]⟩

section Grants

variable (hgrants : Grants scenario)

include hgrants

/-- A frame that is not maximized takes what the limit leaves of a size, and reports it. -/
theorem resize_yields {frame : Size} (hframe : frame.Nonnegative)
    (hmaximized : scene.maximized = false) :
    Action.Yields (Shows scenario scene) (resize host.toWindowSystem frameWindow frame)
      (decide (cut scenario.maxWindow frame = frame))
      (Shows scenario (scene.moved scenario (cut scenario.maxWindow frame))) := by
  refine (setWindowSize_yields hgrants hframe hmaximized).bind ?_
  refine (windowSize_frame_yields hgrants).bind ?_
  simp only [Scene.moved_frame]
  exact Action.yields_pure

/-- The window of a session leaves the maximized state, if it is in it. -/
theorem leaveMaximized_gives (hfollows : Follows session scene) {held : Held SimulatedBrowser}
    (hheld : Attempt.Within session (Shows scenario scene) held) :
    ∃ last, (Held.leaveMaximized host.toWindowSystem).results held = (.ok (), last) ∧
      Attempt.Within { session with demaximized := session.wasMaximized }
        (Shows scenario (scene.left scenario held.host.restoredFrame)) last ∧
      last.host.restoredFrame = held.host.restoredFrame ∧
      last.host.log.resizes = held.host.log.resizes := by
  obtain ⟨rfl, hshows⟩ := hheld
  let left (demaximized : Bool) : ResizeSession := { held.session with demaximized }
  by_cases hleave : held.session.wasMaximized = true ∧ held.session.demaximized = false
  · obtain ⟨_, between, hshow, hbetween⟩ := showRestored_gives hgrants held.host hshows
    have hstate := (showRestored_leaves held.host).1
    rw [hshow] at hstate
    have hrestored := congrArg WindowState.restoredFrame hstate
    have hresizes := congrArg WindowState.resizes hstate
    have hcall : (host.showRestored held.session.handle).results held.host = (.ok (), between) :=
      hshow
    refine ⟨_, Held.results_leaveMaximized hleave.1 hleave.2 hcall,
      ⟨congrArg left hleave.1.symm, ?_⟩, hrestored, hresizes⟩
    rw [Scene.left, if_pos (by rw [hfollows.maximized, hleave.1, hleave.2]; rfl)]
    rwa [show between.restoredFrame = held.host.restoredFrame from hrestored] at hbetween
  · have hleft : held.session.demaximized = held.session.wasMaximized := by
      have honly := hfollows.left
      cases hwas : held.session.wasMaximized <;>
        cases hdemaximized : held.session.demaximized <;> simp_all
    have hmaximized : scene.maximized = false := by
      rw [hfollows.maximized, hleft]
      exact Bool.and_not_self _
    refine ⟨held, Held.results_leaveMaximized_of_left hleft, ⟨congrArg left hleft, ?_⟩, rfl, rfl⟩
    rwa [Scene.left, if_neg (by rw [hmaximized]; exact Bool.false_ne_true)]

/-- Under a session the frame takes what the limit leaves of a size, also when it was maximized. -/
theorem resizeTo_gives (hfollows : Follows session scene) {frame : Size}
    (hframe : frame.Nonnegative) {held : Held SimulatedBrowser}
    (hheld : Attempt.Within session (Shows scenario scene) held) :
    ∃ last, (Held.resizeTo host.toWindowSystem frame).results held =
        (.ok (decide (cut scenario.maxWindow frame = frame)), last) ∧
      Attempt.Within (session.grown true) (Shows scenario ((scene.left scenario
        held.host.restoredFrame).moved scenario (cut scenario.maxWindow frame))) last ∧
      last.host.restoredFrame = held.host.restoredFrame ∧
      last.host.log.resizes = held.host.log.resizes ++ [frame] := by
  obtain ⟨between, hleave, ⟨hsession, hbetween⟩, hrestored, hresizes⟩ :=
    leaveMaximized_gives hgrants hfollows hheld
  have hmaximized := Scene.left_maximized scenario held.host.restoredFrame scene
  obtain ⟨last, hresize, hlast⟩ := resize_yields hgrants hframe hmaximized between.host hbetween
  have hstate := (resize_leaves frame (hbetween.maximized.trans hmaximized)).1
  rw [hresize] at hstate
  refine ⟨⟨session.grown true, last⟩, ?_, ⟨rfl, hlast⟩,
    (congrArg WindowState.restoredFrame hstate).trans hrestored,
    (congrArg WindowState.resizes hstate).trans (by rw [hresizes])⟩
  rw [← hfollows.handle, show session.handle = between.session.handle by rw [hsession]] at hresize
  rw [Held.results_resizeTo hleave hresize, hsession]
  rfl

/-- Where the layout follows at once, a growth comes to what the limit leaves of a frame, wherever
the window has been restored to. -/
theorem growTo_yields_of_settled (hlag : scenario.layoutLag = 0) (hsettled : scene.Settled scenario)
    (hfollows : Follows session scene) {frame : Size} (hframe : frame.Nonnegative) (needed : Bool) :
    Attempt.Yields (Attempt.Within session (Shows scenario scene))
      (growTo host.toWindowSystem needed frame) ()
      (Attempt.Within (session.grown needed)
        (Shows scenario (scene.grown scenario needed (cut scenario.maxWindow frame)))) := by
  cases needed with
  | false => exact Attempt.yields_pure
  | true =>
    intro held hheld
    obtain ⟨last, hresize, hlast, -, -⟩ := resizeTo_gives hgrants hfollows hframe hheld
    rw [hsettled.left_moved hlag, ← hsettled.grown_eq hlag] at hlast
    exact ⟨last, results_growTo_true hresize, hlast⟩

end Grants

section Obeys

variable (hobeys : Obeys scenario)

include hobeys

/-- Under a session the frame takes any other size, also when it was maximized. -/
theorem resizeTo_yields (hfollows : Follows session scene) {frame : Size}
    (hframe : frame.Nonnegative) (hmoves : scene.frame ≠ frame) :
    Action.Yields (Attempt.Within session (Shows scenario scene))
      (Held.resizeTo host.toWindowSystem frame) true
      (Attempt.Within (session.grown true) (Shows scenario (scene.grown scenario true frame))) := by
  intro held hheld
  obtain ⟨last, hends, hlast, -, -⟩ := resizeTo_gives hobeys.toGrants hfollows hframe hheld
  rw [hobeys.cut_eq, decide_eq_true rfl] at hends
  rw [hobeys.cut_eq, Scene.left_moved scenario _ hmoves] at hlast
  exact ⟨last, hends, hlast⟩

theorem growTo_yields (hfollows : Follows session scene) {frame : Size}
    (hframe : frame.Nonnegative) {needed : Bool} (hmoves : needed = true → scene.frame ≠ frame) :
    Attempt.Yields (Attempt.Within session (Shows scenario scene))
      (growTo host.toWindowSystem needed frame) ()
      (Attempt.Within (session.grown needed)
        (Shows scenario (scene.grown scenario needed frame))) := by
  cases needed with
  | false => exact Attempt.yields_pure
  | true =>
    intro held hheld
    obtain ⟨last, hresize, hlast⟩ := resizeTo_yields hobeys hfollows hframe (hmoves rfl) held hheld
    exact ⟨last, results_growTo_true hresize, hlast⟩

end Obeys

end SimulatedBrowser

/-! ### Settling -/

namespace Scene

variable (scenario : Scenario)

/-- The client area that the reads after a growth arrive at, and the scene behind them. -/
def settledFrom (initial : Size) (wide high : Bool) : (attempts : Nat) → Scene → Size → Size × Scene
  | 0, scene, client => (client, scene)
  | attempts + 1, scene, _ =>
    if (!wide || (scene.client scenario).width != initial.width) &&
        (!high || (scene.client scenario).height != initial.height) then
      (scene.client scenario, scene)
    else
      settledFrom initial wide high attempts (scene.recalculated scenario) (scene.client scenario)

/-- What settling arrives at: nothing is read unless a side was resized. -/
def settled (initial : Size) (wide high : Bool) (scene : Scene) : Size × Scene :=
  if wide || high then settledFrom scenario initial wide high settleAttempts scene initial
  else (initial, scene)

/-- A read that shows the old client area is followed by a recalculation and the next read. -/
theorem settledFrom_of_old {initial : Size} {wide high : Bool} {attempts : Nat} {scene : Scene}
    {client : Size} (hshown : scene.client scenario = initial) (hgrows : (wide || high) = true) :
    settledFrom scenario initial wide high (attempts + 1) scene client =
      settledFrom scenario initial wide high attempts (scene.recalculated scenario) initial := by
  have hunsettled : ¬ ((!wide || initial.width != initial.width) &&
      (!high || initial.height != initial.height)) = true := by
    cases wide <;> cases high <;> simp_all
  rw [settledFrom, hshown, if_neg hunsettled]

/-- Reads of a layout that has followed all show the same. -/
theorem settledFrom_of_none {initial : Size} {wide high : Bool} {scene : Scene} {client : Size}
    (hpending : scene.pending = 0) (attempts : Nat) :
    settledFrom scenario initial wide high (attempts + 1) scene client =
      (scene.client scenario, scene) := by
  induction attempts generalizing client with
  | zero =>
    rw [settledFrom, recalculated_of_none scenario hpending]
    split <;> rfl
  | succ attempts ih =>
    rw [settledFrom, recalculated_of_none scenario hpending, ih]
    split <;> rfl

/-- Where the layout has followed, settling comes to the client area that it shows. -/
theorem settled_of_none {initial : Size} {wide high : Bool} {scene : Scene}
    (hpending : scene.pending = 0)
    (hstill : (wide || high) = false → scene.client scenario = initial) :
    scene.settled scenario initial wide high = (scene.client scenario, scene) := by
  unfold settled
  split
  · exact settledFrom_of_none scenario hpending 1
  · rename_i hgrew
    rw [hstill (Bool.eq_false_iff.mpr hgrew)]

/-- Reading and recalculating leave the frame as it is, the maximized state and what is drawn. -/
theorem settledFrom_keeps (initial : Size) (wide high : Bool) (attempts : Nat) (scene : Scene)
    (client : Size) :
    (settledFrom scenario initial wide high attempts scene client).2.frame = scene.frame ∧
      (settledFrom scenario initial wide high attempts scene client).2.maximized =
        scene.maximized ∧
      (settledFrom scenario initial wide high attempts scene client).2.paint = scene.paint := by
  induction attempts generalizing scene client with
  | zero => exact ⟨rfl, rfl, rfl⟩
  | succ attempts ih =>
    rw [settledFrom]
    split
    · exact ⟨rfl, rfl, rfl⟩
    · obtain ⟨hframe, hmaximized, hpaint⟩ :=
        ih (scene.recalculated scenario) (scene.client scenario)
      rw [hframe, hmaximized, hpaint]
      exact ⟨recalculated_frame scenario scene, recalculated_maximized scenario scene,
        recalculated_paint scenario scene⟩

/-- The layout stays as it is, or follows the frame. -/
theorem settledFrom_laidOut (initial : Size) (wide high : Bool) (attempts : Nat) (scene : Scene)
    (client : Size) :
    (settledFrom scenario initial wide high attempts scene client).2.laidOut = scene.laidOut ∨
      (settledFrom scenario initial wide high attempts scene client).2.laidOut =
        scene.frame.less scenario.chrome := by
  induction attempts generalizing scene client with
  | zero => exact .inl rfl
  | succ attempts ih =>
    rw [settledFrom]
    split
    · exact .inl rfl
    · have hrest := ih (scene.recalculated scenario) (scene.client scenario)
      rw [recalculated_frame] at hrest
      by_cases hone : scene.pending = 1
      · rw [recalculated_of_one scenario hone] at hrest ⊢
        exact .inr (hrest.elim id id)
      · rwa [recalculated_laidOut scenario hone] at hrest

end Scene

namespace SimulatedBrowser

variable {scenario : Scenario} {session : ResizeSession} (hgrants : Grants scenario)

include hgrants

theorem settleFrom_yields (canvas : Canvas) (initial : Size) (wide high : Bool) (attempts : Nat)
    (force : Bool) (client : Size) (scene : Scene) :
    Attempt.Yields (Attempt.Within session (Shows scenario scene))
      (settleFrom host.toDisplayedDocument canvas initial wide high attempts force client)
      (scene.settledFrom scenario initial wide high attempts client).1
      (Attempt.Within session
        (Shows scenario (scene.settledFrom scenario initial wide high attempts client).2)) := by
  induction attempts generalizing force client scene with
  | zero => exact Attempt.yields_pure
  | succ attempts ih =>
    refine (Attempt.yields_ask (metrics_yields hgrants)).bind ?_
    by_cases hsettled : ((!wide || (scene.client scenario).width != initial.width) &&
        (!high || (scene.client scenario).height != initial.height)) = true
    · have hread : scene.settledFrom scenario initial wide high (attempts + 1) client =
          (scene.client scenario, scene) := if_pos hsettled
      rw [hread]
      simp only [if_pos hsettled]
      exact Attempt.yields_pure
    · have hread : scene.settledFrom scenario initial wide high (attempts + 1) client =
          (scene.recalculated scenario).settledFrom scenario initial wide high attempts
            (scene.client scenario) := if_neg hsettled
      rw [hread]
      simp only [if_neg hsettled]
      exact (Attempt.yields_act (Attempt.yields_asking
        (forceRecalculate_yields hgrants force))).bind (ih true _ _)

theorem settleClientSize_yields (canvas : Canvas) (initial : Size) (wide high : Bool)
    (scene : Scene) :
    Attempt.Yields (Attempt.Within session (Shows scenario scene))
      (settleClientSize host.toDisplayedDocument canvas initial wide high)
      (scene.settled scenario initial wide high).1
      (Attempt.Within session (Shows scenario (scene.settled scenario initial wide high).2)) := by
  unfold settleClientSize Scene.settled
  simp only [← Bool.not_or]
  cases hgrew : wide || high with
  | false => exact Attempt.yields_pure
  | true =>
    exact settleFrom_yields hgrants canvas initial wide high settleAttempts false initial scene

end SimulatedBrowser

end PageCapture
