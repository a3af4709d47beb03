import Mathlib.Logic.Relation
import PageCapture.Proofs.Browser.Reachable
import PageCapture.Proofs.Window.Geometry
import PageCapture.Proofs.Window.Session

/-!
# Nested sessions

Any number of sessions may be open on one window at a time (`Nest`). Each of them may resize the
window while others are open that began before it or after it, and they end in the order that is the
reverse of the one in which they began; between that the browser may be asked anything that does not
resize (`Nest.Step`).

A session records the geometry that it finds, which may be one that a session before it has made,
and only a session that has changed the window puts back what it has recorded. So whatever the
window is like, what the sessions leave is decided by the last of them that has changed it
(`unwind`). A run keeps it the geometry of the scenario: as long as no session is open, and behind
each of the open ones for itself, since that one recorded the geometry of the scenario or began
above a session that had changed the window (`Layered`). Resizing the window for a session that has
not changed it so far decides in favour of what it has recorded, and that is why its record has to
lead back as well (`Layered.replace`).

`nest_returns` is the result: when no session is open any more, the window is as it was at the
start.
-/

set_option autoImplicit false
set_option relaxedAutoImplicit false

namespace PageCapture

open SimulatedBrowser

/-! ### Steps -/

/-- The sessions that are open on the frame of a browser, the one that began last first. -/
structure Nest where
  opened : List ResizeSession
  browser : SimulatedBrowser

/-- What may happen while sessions are open. A step that meets a fault is none. -/
inductive Nest.Step : Nest → Nest → Prop where
  /-- A session begins. -/
  | begin {opened : List ResizeSession} {browser last : SimulatedBrowser} {session : ResizeSession}
      (hbegin : (ResizeSession.begin host.toWindowSystem frameWindow).results browser =
        (.ok (.ok session), last)) :
      Step ⟨opened, browser⟩ ⟨session :: opened, last⟩
  /-- One of the sessions resizes the window. -/
  | resizeTo {inner outer : List ResizeSession} {session resized : ResizeSession}
      {browser last : SimulatedBrowser} {observed : Bool} (size : Size)
      (hresize : (Held.resizeTo host.toWindowSystem size).results ⟨session, browser⟩ =
        (.ok observed, ⟨resized, last⟩)) :
      Step ⟨inner ++ session :: outer, browser⟩ ⟨inner ++ resized :: outer, last⟩
  /-- The session that began last ends. -/
  | close {opened : List ResizeSession} {session : ResizeSession} {browser last : SimulatedBrowser}
      (hclose : (session.close host.toWindowSystem).results browser = (.ok (), last)) :
      Step ⟨session :: opened, browser⟩ ⟨opened, last⟩
  /-- The browser is asked something that does not resize its window. -/
  | call {opened : List ResizeSession} {browser last : SimulatedBrowser} (call : BrowserCall)
      (hstays : call.resizes = false) (hcall : call.perform.results browser = (.ok (), last)) :
      Step ⟨opened, browser⟩ ⟨opened, last⟩

/-! ### What the sessions leave -/

/-- The geometry that a session has recorded. -/
def ResizeSession.recorded (session : ResizeSession) : Geometry :=
  ⟨session.initial, session.wasMaximized⟩

/-- The geometry that the window of a scenario has at the start. -/
def Scenario.geometry (scenario : Scenario) : Geometry := ⟨scenario.window, scenario.maximized⟩

/-- The geometry that a window has. -/
def WindowState.geometry (window : WindowState) : Geometry := ⟨window.frame, window.maximized⟩

/-- The geometry that the sessions make of another when they end, the first one first. -/
def unwind (opened : List ResizeSession) (geometry : Geometry) : Geometry :=
  opened.foldl
    (fun geometry session ↦ if session.isMutated then session.recorded else geometry) geometry

theorem unwind_append (inner outer : List ResizeSession) (geometry : Geometry) :
    unwind (inner ++ outer) geometry = unwind outer (unwind inner geometry) :=
  List.foldl_append

theorem unwind_cons_of_mutated {session : ResizeSession} (hmutated : session.isMutated = true)
    (outer : List ResizeSession) (geometry : Geometry) :
    unwind (session :: outer) geometry = unwind outer session.recorded := by
  rw [unwind, List.foldl_cons, if_pos hmutated]
  rfl

theorem unwind_cons_of_untouched {session : ResizeSession} (huntouched : session.isMutated = false)
    (outer : List ResizeSession) (geometry : Geometry) :
    unwind (session :: outer) geometry = unwind outer geometry := by
  rw [unwind, List.foldl_cons, if_neg (by rw [huntouched]; exact Bool.false_ne_true)]
  rfl

/-- The sessions lead from a geometry to the one that is wanted, and so they do from another: either
one of them has changed the window, and it does not matter what they find, or the geometry is the
wanted one. -/
theorem unwind_eq_of_imp {opened : List ResizeSession} {wanted geometry other : Geometry}
    (hother : geometry = wanted → other = wanted) (hleads : unwind opened geometry = wanted) :
    unwind opened other = wanted := by
  induction opened generalizing geometry other with
  | nil => exact hother hleads
  | cons session opened ih =>
    cases hmutated : session.isMutated with
    | true =>
      rw [unwind_cons_of_mutated hmutated] at hleads ⊢
      exact hleads
    | false =>
      rw [unwind_cons_of_untouched hmutated] at hleads ⊢
      exact ih hother hleads

variable {scenario : Scenario}

/-- Sessions each of which leads back to the start, when it is put back and those that began before
it end after it. -/
inductive Layered (scenario : Scenario) : List ResizeSession → Prop where
  | nil : Layered scenario []
  | cons {session : ResizeSession} {outer : List ResizeSession}
      (hhandle : session.handle = frameWindow)
      (hmaximized : scenario.maximized = false → session.wasMaximized = false)
      (hleads : unwind outer session.recorded = scenario.geometry)
      (houter : Layered scenario outer) :
      Layered scenario (session :: outer)

namespace Layered

variable {inner outer : List ResizeSession} {session resized : ResizeSession}

theorem of_append (hlayered : Layered scenario (inner ++ outer)) : Layered scenario outer := by
  induction inner with
  | nil => exact hlayered
  | cons session inner ih =>
    cases hlayered with
    | cons _ _ _ hrest => exact ih hrest

/-- Where one of the sessions has changed the window, they lead back from every geometry. -/
theorem unwind_eq (hlayered : Layered scenario (inner ++ session :: outer))
    (hmutated : session.isMutated = true) (geometry : Geometry) :
    unwind (inner ++ session :: outer) geometry = scenario.geometry := by
  rw [unwind_append, unwind_cons_of_mutated hmutated]
  cases hlayered.of_append with
  | cons _ _ hleads _ => exact hleads

/-- A session that changes the window keeps what it has recorded. -/
theorem replace (hlayered : Layered scenario (inner ++ session :: outer))
    (hhandle : resized.handle = session.handle) (hrecorded : resized.recorded = session.recorded)
    (hmutated : resized.isMutated = true) : Layered scenario (inner ++ resized :: outer) := by
  induction inner with
  | nil =>
    cases hlayered with
    | cons hframe hmaximized hleads houter =>
      refine .cons (hhandle.trans hframe) (fun hnot ↦ ?_) (hrecorded ▸ hleads) houter
      exact (congrArg Geometry.maximized hrecorded).trans (hmaximized hnot)
  | cons first inner ih =>
    cases hlayered with
    | cons hframe hmaximized _ hrest =>
      exact .cons hframe hmaximized ((ih hrest).unwind_eq hmutated _) (ih hrest)

end Layered

/-! ### What a step keeps -/

/-- What nothing that sessions do changes of a window. -/
structure Kept (scenario : Scenario) (window : WindowState) : Prop where
  runs : window.scenario = scenario
  maximizedFrame : window.maximizedFrame = scenario.window
  maximized : scenario.maximized = false → window.maximized = false

namespace SimulatedBrowser

variable {browser last : SimulatedBrowser}

/-- Whatever becomes of a frame that is resized, the rest of the window is as it was. -/
theorem resize_kept (size : Size) :
    Action.Ends (fun browser ↦ Kept scenario browser.windowState)
      (resize host.toWindowSystem frameWindow size)
      fun _ last ↦ Kept scenario last.windowState := by
  have hset : Action.Ends (fun browser ↦ Kept scenario browser.windowState)
      (setWindowSize frameWindow size) fun _ last ↦ Kept scenario last.windowState := by
    rintro browser ⟨hruns, hframe, hmaximized⟩
    rw [results_setWindowSize, if_pos (.inl rfl)]
    split
    · exact ⟨hruns, hframe, hmaximized⟩
    · dsimp only
      rw [(applyFrame_leaves _ (browser.asked size)).1]
      exact ⟨hruns, hframe, hmaximized⟩
  refine hset.bind (fun _ _ hlast ↦ hlast) fun granted ↦ ?_
  cases granted with
  | error error => exact fun _ hlast ↦ hlast
  | ok _ =>
    have hread : Action.Ends (fun browser ↦ Kept scenario browser.windowState)
        (windowSize frameWindow) fun _ last ↦ Kept scenario last.windowState := by
      intro browser hkept
      have hsame := (observes_windowSize frameWindow).leavesWindow browser
      exact hsame ▸ hkept
    refine hread.bind (fun _ _ hlast ↦ hlast) fun read ↦ ?_
    cases read <;> exact fun _ hlast ↦ hlast

/-- A session that resizes the window keeps what it has recorded, and knows that it has changed
it. -/
theorem resizeTo_kept {size : Size} {session resized : ResizeSession} {observed : Bool}
    (hkept : Kept scenario browser.windowState) (hhandle : session.handle = frameWindow)
    (hresize : (Held.resizeTo host.toWindowSystem size).results ⟨session, browser⟩ =
      (.ok observed, ⟨resized, last⟩)) :
    Kept scenario last.windowState ∧ resized.handle = session.handle ∧
      resized.recorded = session.recorded ∧ resized.isMutated = true := by
  obtain ⟨between, hleave, hends, demaximized, hresized⟩ := Held.resizeTo_ends hresize
  have hbetween : Kept scenario between.host.windowState := by
    rcases Held.leaveMaximized_ends hleave with rfl | ⟨hwas, hshow, -⟩
    · exact hkept
    · have hleft := (showRestored_leaves browser).1
      rw [show showRestored.results browser = _ from hshow] at hleft
      rw [hleft]
      exact ⟨hkept.runs, hkept.maximizedFrame, fun _ ↦ rfl⟩
  obtain rfl : resized = { session with demaximized, resized := true } := hresized
  have hlast := resize_kept size _ hbetween
  rw [hhandle] at hends
  rw [hends] at hlast
  exact ⟨hlast, rfl, rfl, Bool.or_true _⟩

/-- A session that has changed the window puts it back. It is as at the start where the session has
recorded that. -/
theorem restoreWindow_kept {session : ResizeSession}
    (hroom : ∀ limit, scenario.maxWindow = some limit →
      scenario.window.width ≤ limit.width ∧ scenario.window.height ≤ limit.height)
    (hkept : Kept scenario browser.windowState)
    (hmaximized : scenario.maximized = false → session.wasMaximized = false)
    (hends : (restoreWindow host.toWindowSystem frameWindow session.initial
      session.wasMaximized).results browser = (.ok (), last)) :
    Kept scenario last.windowState ∧
      (session.recorded = scenario.geometry → last.windowState.geometry = scenario.geometry) := by
  obtain ⟨hruns, hframe, hnot⟩ := hkept
  cases hwas : session.wasMaximized with
  | true =>
    have hstart : scenario.maximized ≠ false := fun hstart ↦ by
      rw [hmaximized hstart] at hwas
      cases hwas
    have hleft := (maximize_leaves browser).1
    rw [hwas, restoreWindow, if_pos rfl] at hends
    rw [show maximize.results browser = _ from hends] at hleft
    refine ⟨hleft ▸ ⟨hruns, hframe, fun hno ↦ absurd hno hstart⟩, fun _ ↦ ?_⟩
    rw [hleft, WindowState.geometry, Scenario.geometry, eq_true_of_ne_false hstart]
    exact congrArg (Geometry.mk · true) hframe
  | false =>
    rw [hwas, restoreWindow, if_neg Bool.false_ne_true, Action.bind_results] at hends
    have hlast := resize_kept session.initial browser ⟨hruns, hframe, hnot⟩
    have hleft := fun hno ↦ (resize_leaves session.initial (hnot hno)).1
    rcases hresize : (resize host.toWindowSystem frameWindow session.initial).results browser
      with ⟨fault | observed, after⟩ <;> rw [hresize] at hends hlast hleft <;> cases hends
    refine ⟨hlast, fun hrecorded ↦ ?_⟩
    have hstart : scenario.maximized = false :=
      (congrArg Geometry.maximized hrecorded).symm.trans hwas
    have hinitial : session.initial = scenario.window := congrArg Geometry.frame hrecorded
    have hgeometry : last.windowState.geometry =
        ⟨cut browser.scenario.maxWindow session.initial, browser.maximized⟩ :=
      congrArg WindowState.geometry (hleft hstart)
    have hcut : cut browser.scenario.maxWindow session.initial = scenario.window := by
      rw [hinitial, show browser.scenario = scenario from hruns, cut_of_le hroom]
    rw [hgeometry, hcut, show browser.maximized = false from hnot hstart, Scenario.geometry, hstart]

/-- A call that does not resize the window leaves it as it is. -/
theorem leavesWindow_perform {call : BrowserCall} (hstays : call.resizes = false) :
    LeavesWindow call.perform := by
  cases hplain : call.recalculates with
  | false => exact (observes_perform hstays hplain).leavesWindow
  | true =>
    cases call with
    | forceRecalculate force =>
      exact (leavesWindow_forceRecalculate force).bind fun _ ↦ leavesWindow_of_still fun _ ↦ rfl
    | _ => cases hplain

end SimulatedBrowser

/-! ### Runs -/

/-- Whatever the open sessions do, they lead the window of the scenario back to where it was. -/
structure Nest.Returns (scenario : Scenario) (nest : Nest) : Prop where
  kept : Kept scenario nest.browser.windowState
  layered : Layered scenario nest.opened
  leads : unwind nest.opened nest.browser.windowState.geometry = scenario.geometry

namespace Nest.Returns

variable {nest next last : Nest} (hroom : ∀ limit, scenario.maxWindow = some limit →
    scenario.window.width ≤ limit.width ∧ scenario.window.height ≤ limit.height)
  (hreturns : nest.Returns scenario)

include hroom hreturns

theorem step (hstep : nest.Step next) : next.Returns scenario := by
  obtain ⟨hkept, hlayered, hleads⟩ := hreturns
  cases hstep with
  | begin hbegin =>
    rw [results_begin_frame] at hbegin
    split at hbegin
    · cases hbegin
    · cases hbegin
      exact ⟨hkept, .cons rfl hkept.maximized hleads hlayered, hleads⟩
  | resizeTo size hresize =>
    cases hlayered.of_append with
    | cons hhandle =>
      obtain ⟨hlast, hsame, hrecorded, hmutated⟩ := resizeTo_kept hkept hhandle hresize
      have hnext := hlayered.replace hsame hrecorded hmutated
      exact ⟨hlast, hnext, hnext.unwind_eq hmutated _⟩
  | @close opened session browser last hclose =>
    cases hlayered with
    | cons hhandle hmaximized hback houter =>
      cases hmutated : session.isMutated with
      | false =>
        rw [ResizeSession.results_close_of_untouched hmutated] at hclose
        cases hclose
        rw [unwind_cons_of_untouched hmutated] at hleads
        exact ⟨hkept, houter, hleads⟩
      | true =>
        rw [ResizeSession.close_of_mutated hmutated, hhandle] at hclose
        obtain ⟨hlast, hhome⟩ := restoreWindow_kept hroom hkept hmaximized hclose
        exact ⟨hlast, houter, unwind_eq_of_imp hhome hback⟩
  | @call opened browser last call hstays hcall =>
    have hsame := leavesWindow_perform hstays browser
    rw [hcall] at hsame
    have hgeometry : last.windowState.geometry = browser.windowState.geometry :=
      congrArg WindowState.geometry hsame
    exact ⟨hsame ▸ hkept, hlayered, hgeometry ▸ hleads⟩

theorem run (hrun : Relation.ReflTransGen Nest.Step nest last) : last.Returns scenario := by
  induction hrun with
  | refl => exact hreturns
  | tail _ hstep ih => exact step hroom ih hstep

end Nest.Returns

/-- Nested sessions put the window back between them. However many are begun on the frame of a
simulated browser, in whatever order they resize it and whatever is asked of the browser between
that, if they end in the reverse order the frame and the maximized state are those of the start when
none is open. Assumes: the window may have the size that it starts with. -/
theorem nest_returns {scenario : Scenario} {browser last : SimulatedBrowser}
    (hroom : ∀ limit, scenario.maxWindow = some limit →
      scenario.window.width ≤ limit.width ∧ scenario.window.height ≤ limit.height)
    (hstart : start scenario = .ok browser)
    (hrun : Relation.ReflTransGen Nest.Step ⟨[], browser⟩ ⟨[], last⟩) :
    last.frame = scenario.window ∧ last.maximized = scenario.maximized := by
  have hfirst : Nest.Returns scenario ⟨[], browser⟩ := by
    obtain ⟨viewport, -, hbrowser⟩ := exists_of_bind hstart
    cases hbrowser
    exact ⟨⟨rfl, rfl, id⟩, .nil, rfl⟩
  have hlast := (Nest.Returns.run hroom hfirst hrun).leads
  exact ⟨congrArg Geometry.frame hlast, congrArg Geometry.maximized hlast⟩

/-- The law for two sessions on a maximized window. The one that began first has resized the window
when the other begins, and resizes it again below that one: what the other one records and puts back
is a frame that the window did not have at the start. -/
theorem nest_returns_maximized :
    ∃ browser last,
      start { maximized := true, restoredWindow := some ⟨900, 700⟩
              maxWindow := some ⟨1500, 1500⟩ } = .ok browser ∧
      Relation.ReflTransGen Nest.Step ⟨[], browser⟩ ⟨[], last⟩ ∧
      last.log.resizes = [⟨1024, 2000⟩, ⟨1300, 768⟩, ⟨1200, 900⟩, ⟨1024, 1500⟩] ∧
      last.frame = ⟨1024, 768⟩ ∧ last.maximized = true := by
  obtain ⟨browser, hstart, last, hrun, hresizes⟩ :
      ∃ browser,
        start { maximized := true, restoredWindow := some ⟨900, 700⟩
                maxWindow := some ⟨1500, 1500⟩ } = .ok browser ∧
        ∃ last, Relation.ReflTransGen Nest.Step ⟨[], browser⟩ ⟨[], last⟩ ∧
          last.log.resizes = [⟨1024, 2000⟩, ⟨1300, 768⟩, ⟨1200, 900⟩, ⟨1024, 1500⟩] :=
    ⟨_, rfl, _, .head (.begin rfl) <|
      .head (@Nest.Step.resizeTo [] [] _ _ _ _ _ ⟨1024, 2000⟩ rfl) <|
      .head (.begin rfl) <|
      .head (@Nest.Step.resizeTo [] [_] _ _ _ _ _ ⟨1300, 768⟩ rfl) <|
      .head (.call (.metrics .documentElement) rfl rfl) <|
      .head (@Nest.Step.resizeTo [_] [] _ _ _ _ _ ⟨1200, 900⟩ rfl) <|
      .head (.close rfl) <| .head (.close rfl) .refl, rfl⟩
  exact ⟨browser, last, hstart, hrun, hresizes, nest_returns (by rintro _ ⟨⟩; decide) hstart hrun⟩

end PageCapture
