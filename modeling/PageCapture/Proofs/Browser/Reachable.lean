import PageCapture.Proofs.Browser.Scene

/-!
# Reachable states of a simulated browser

A `BrowserCall` is one of the things that a simulated browser can be asked to do, and `performAll`
makes any number of them. Whatever they are, unless one of them ends with a fault the browser is
`Reached`: a maximized window has the frame that the scenario began with, and the layout is the one
of the frame unless a recalculation is pending, of which there are never more than the lag
(`LaysOut`). Each kind of call keeps that (`Reached.perform`), and so does a run
(`Reached.performAll`).

A resize leaves a layout that is brought up to the frame by as many recalculations as the lag says,
whatever else is asked of the browser between them (`LaysOut.performAll`). Then nothing can be told
of it by its metrics that could not be told of a browser that has just been started with that frame:
`performAll_reaches` collects what holds behind every history.
-/

set_option autoImplicit false
set_option relaxedAutoImplicit false

namespace PageCapture

/-! ### Calls -/

/-- An action whose value is not looked at. -/
def Action.void {σ α : Type} (action : Action σ α) : Action σ Unit := do
  let _ ← action
  return ()

theorem Action.results_void {σ α : Type} (action : Action σ α) (state : σ) :
    action.void.results state =
      ((action.results state).1.map fun _ ↦ (), (action.results state).2) := by
  rw [Action.void, Action.bind_results]
  rcases action.results state with ⟨_ | _, _⟩ <;> rfl

theorem Action.results_of_void {σ α : Type} {action : Action σ α} {state last : σ}
    (hends : action.void.results state = (.ok (), last)) :
    ∃ value, action.results state = (.ok value, last) := by
  rw [results_void] at hends
  rcases hvalue : action.results state with ⟨fault | value, after⟩ <;> rw [hvalue] at hends <;>
    cases hends
  exact ⟨value, rfl⟩

/-- What a simulated browser can be asked to do. -/
inductive BrowserCall where
  | windowSize (handle : WindowHandle)
  | setWindowSize (handle : WindowHandle) (size : Size)
  | isMaximized (handle : WindowHandle)
  | showRestored (handle : WindowHandle)
  | maximize (handle : WindowHandle)
  | print (handle : WindowHandle) (bitmap : Bitmap)
  | redraw (handle : WindowHandle)
  | metrics (canvas : Canvas)
  | forceRecalculate (force : Bool)
  | scriptPaint (outcomes : List PaintOutcome)

namespace BrowserCall

/-- Asks a simulated browser to do something; what it replies is not looked at. -/
def perform : BrowserCall → Action SimulatedBrowser Unit
  | windowSize handle => (SimulatedBrowser.host.windowSize handle).void
  | setWindowSize handle size => (SimulatedBrowser.host.setWindowSize handle size).void
  | isMaximized handle => (SimulatedBrowser.host.isMaximized handle).void
  | showRestored handle => SimulatedBrowser.host.showRestored handle
  | maximize handle => SimulatedBrowser.host.maximize handle
  | print handle bitmap => (SimulatedBrowser.host.print handle bitmap).void
  | redraw handle => SimulatedBrowser.host.redraw handle
  | metrics canvas => (SimulatedBrowser.host.metrics canvas).void
  | forceRecalculate force => (SimulatedBrowser.host.forceRecalculate force).void
  | scriptPaint outcomes => SimulatedBrowser.scriptPaint outcomes

/-- Whether a call may resize the frame. -/
def resizes : BrowserCall → Bool
  | setWindowSize .. | showRestored _ | maximize _ => true
  | _ => false

/-- Whether a call is a recalculation of the layout. -/
def recalculates : BrowserCall → Bool
  | forceRecalculate _ => true
  | _ => false

/-- Makes calls one after the other, up to the first that ends with a fault. -/
def performAll : List BrowserCall → Action SimulatedBrowser Unit
  | [] => return ()
  | call :: calls => do
    call.perform
    performAll calls

end BrowserCall

namespace SimulatedBrowser

open BrowserCall

variable {scenario : Scenario} {browser last : SimulatedBrowser}

/-- A call that neither resizes the frame nor recalculates the layout only observes. -/
theorem observes_perform {call : BrowserCall} (hstays : call.resizes = false)
    (hplain : call.recalculates = false) : Observes call.perform := by
  have hvoid : ∀ {α : Type} {action : Action SimulatedBrowser α}, Observes action →
      Observes action.void :=
    fun hobserves ↦ hobserves.bind fun _ ↦ observes_of_still fun _ ↦ rfl
  cases call with
  | windowSize handle => exact hvoid (observes_windowSize handle)
  | isMaximized handle => exact hvoid (observes_of_still fun _ ↦ rfl)
  | print handle bitmap => exact hvoid (observes_print handle bitmap)
  | redraw handle => exact observes_note fun _ ↦ rfl
  | metrics canvas => exact hvoid observes_metrics
  | scriptPaint outcomes => exact fun browser ↦ ⟨browser.log, _, rfl, rfl⟩
  | setWindowSize handle size => cases hstays
  | showRestored handle => cases hstays
  | maximize handle => cases hstays
  | forceRecalculate force => cases hplain

/-- A run that ends with a value is a first call that does, and a run behind it. -/
theorem results_performAll_cons {call : BrowserCall} {calls : List BrowserCall}
    (hends : (performAll (call :: calls)).results browser = (.ok (), last)) :
    ∃ middle, call.perform.results browser = (.ok (), middle) ∧
      (performAll calls).results middle = (.ok (), last) := by
  rw [performAll, Action.bind_results] at hends
  rcases hcall : call.perform.results browser with ⟨fault | _, middle⟩
  · rw [hcall] at hends
    cases hends
  · rw [hcall] at hends
    exact ⟨middle, rfl, hends⟩

/-! ### The layout -/

/-- The layout of a browser is the one of its frame unless a recalculation is pending. -/
structure LaysOut (browser : SimulatedBrowser) : Prop where
  viewport : HasViewport browser.scenario browser.frame
  pending : browser.pendingRecalculations ≤ browser.scenario.layoutLag.toNat
  laidOut : browser.pendingRecalculations = 0 →
    viewportOf browser.frame browser.scenario.chrome = .ok browser.laidOutViewport

/-- A frame that moves is followed at once, or by as many recalculations as the lag says. -/
theorem LaysOut.applyFrame (hlayout : LaysOut browser) {frame : Size}
    (hends : (applyFrame frame).results browser = (.ok (), last)) : LaysOut last := by
  by_cases hstill : browser.frame = frame
  · rw [results_applyFrame_of_still hstill] at hends
    cases hends
    exact hlayout
  · rw [results_applyFrame_of_moves hstill] at hends
    cases hviewport : viewportOf frame browser.scenario.chrome with
    | error fault =>
      rw [hviewport] at hends
      cases hends
    | ok viewport =>
      rw [hviewport] at hends
      cases hends
      unfold layOut
      split
      · exact ⟨⟨viewport, hviewport⟩, hlayout.pending, fun _ ↦ hviewport⟩
      · rename_i hlag
        refine ⟨⟨viewport, hviewport⟩, Nat.le_refl _, fun hnone ↦ absurd ?_ hlag⟩
        exact UInt32.toNat_inj.mp hnone

/-- A recalculation meets no fault. It leaves one fewer pending, and the last brings the layout up
to the frame. -/
theorem LaysOut.forceRecalculate (hlayout : LaysOut browser) (force : Bool) :
    ∃ last, (forceRecalculate force).results browser = (.ok (.ok ()), last) ∧ LaysOut last ∧
      last.pendingRecalculations = browser.pendingRecalculations - 1 ∧
      last.windowState = browser.windowState := by
  obtain ⟨viewport, hviewport⟩ := hlayout.viewport
  have hleaves := leavesWindow_forceRecalculate force browser
  rw [SimulatedBrowser.forceRecalculate, Action.bind_results, SimulatedBrowser.viewport,
    Action.results_ofResults, hviewport] at hleaves ⊢
  refine ⟨_, rfl, ?_, ?_, hleaves⟩
  · have hpending := hlayout.pending
    dsimp only
    rcases hcount : browser.pendingRecalculations with _ | _ | pending
    · exact ⟨⟨viewport, hviewport⟩, Nat.zero_le _, fun _ ↦ hlayout.laidOut hcount⟩
    · exact ⟨⟨viewport, hviewport⟩, Nat.zero_le _, fun _ ↦ hviewport⟩
    · rw [hcount] at hpending
      refine ⟨⟨viewport, hviewport⟩, Nat.le_of_succ_le hpending, fun hnone ↦ ?_⟩
      cases hnone
  · dsimp only
    rcases browser.pendingRecalculations with _ | _ | pending <;> rfl

/-- What only observes a browser leaves its layout as it is. -/
theorem LaysOut.observed (hlayout : LaysOut browser) {log : CallLog} {paint : List PaintOutcome} :
    LaysOut { browser with log, paint } :=
  ⟨hlayout.viewport, hlayout.pending, hlayout.laidOut⟩

/-- Calls that do not resize the frame leave the window as it is, and each recalculation among them
leaves one fewer pending. -/
theorem LaysOut.performAll (hlayout : LaysOut browser) {calls : List BrowserCall}
    (hstays : ∀ call ∈ calls, call.resizes = false)
    (hends : (performAll calls).results browser = (.ok (), last)) :
    LaysOut last ∧ last.windowState = browser.windowState ∧
      last.pendingRecalculations = browser.pendingRecalculations - calls.countP recalculates := by
  induction calls generalizing browser with
  | nil =>
    cases hends
    exact ⟨hlayout, rfl, rfl⟩
  | cons call calls ih =>
    obtain ⟨middle, hcall, hrest⟩ := results_performAll_cons hends
    rw [List.forall_mem_cons] at hstays
    rw [List.countP_cons]
    cases hplain : call.recalculates with
    | false =>
      obtain ⟨log, paint, hmiddle, hresizes⟩ := observes_perform hstays.1 hplain browser
      rw [hcall] at hmiddle
      obtain rfl : middle = _ := hmiddle
      obtain ⟨hlast, hwindow, hpending⟩ := ih hlayout.observed hstays.2 hrest
      refine ⟨hlast, hwindow.trans ?_, hpending⟩
      change { browser.windowState with resizes := log.resizes } = browser.windowState
      rw [hresizes]
      rfl
    | true =>
      obtain ⟨force, rfl⟩ : ∃ force, call = .forceRecalculate force := by
        cases call <;> first | exact ⟨_, rfl⟩ | cases hplain
      obtain ⟨between, hforce, hbetween, hcount, hsame⟩ := hlayout.forceRecalculate force
      have hvoid : (perform (.forceRecalculate force)).results browser = (.ok (), between) := by
        refine (Action.results_void _ browser).trans ?_
        rw [show (host.forceRecalculate force).results browser = _ from hforce]
        rfl
      rw [hvoid] at hcall
      cases hcall
      obtain ⟨hlast, hwindow, hpending⟩ := ih hbetween hstays.2 hrest
      refine ⟨hlast, hwindow.trans hsame, ?_⟩
      rw [hpending, hcount, if_pos rfl]
      omega

/-! ### The window -/

/-- What holds of every browser that calls have led to without a fault. -/
structure Reached (scenario : Scenario) (browser : SimulatedBrowser) : Prop where
  runs : browser.scenario = scenario
  maximizedFrame : browser.maximizedFrame = scenario.window
  maximized : browser.maximized = true → browser.frame = scenario.window
  layout : LaysOut browser

theorem reached_of_start (hstart : start scenario = .ok browser) : Reached scenario browser := by
  obtain ⟨viewport, hviewport, hbrowser⟩ := exists_of_bind hstart
  cases hbrowser
  exact ⟨rfl, rfl, fun _ ↦ rfl, ⟨viewport, hviewport⟩, Nat.zero_le _, fun _ ↦ hviewport⟩

/-- A frame that is given a size. Assumes: a maximized window is given the frame of the scenario. -/
theorem reached_of_applyFrame (browser : SimulatedBrowser) (hruns : browser.scenario = scenario)
    (hframe : browser.maximizedFrame = scenario.window) (hlayout : LaysOut browser) {frame : Size}
    (hmaximized : browser.maximized = true → frame = scenario.window)
    (hends : (applyFrame frame).results browser = (.ok (), last)) : Reached scenario last := by
  have hleft := (applyFrame_leaves frame browser).1
  rw [hends] at hleft
  refine ⟨(congrArg WindowState.scenario hleft).trans hruns,
    (congrArg WindowState.maximizedFrame hleft).trans hframe, fun hlast ↦ ?_,
    hlayout.applyFrame hends⟩
  have hwas : browser.maximized = true := (congrArg WindowState.maximized hleft).symm.trans hlast
  exact (congrArg WindowState.frame hleft).trans (hmaximized hwas)

/-- Every call keeps it. -/
theorem Reached.perform (hreached : Reached scenario browser) {call : BrowserCall}
    (hends : call.perform.results browser = (.ok (), last)) : Reached scenario last := by
  obtain ⟨hruns, hframe, hmaximized, hlayout⟩ := hreached
  cases hstays : call.resizes with
  | false =>
    have hall : (performAll [call]).results browser = (.ok (), last) := by
      rw [BrowserCall.performAll, Action.bind_results, hends]
      rfl
    obtain ⟨hlast, hwindow, -⟩ := hlayout.performAll (by simpa using hstays) hall
    have hsame : last.frame = browser.frame := congrArg WindowState.frame hwindow
    have hstill : last.maximized = browser.maximized := congrArg WindowState.maximized hwindow
    refine ⟨(congrArg WindowState.scenario hwindow).trans hruns,
      (congrArg WindowState.maximizedFrame hwindow).trans hframe, fun hmax ↦ ?_, hlast⟩
    rw [hsame, hmaximized (hstill.symm.trans hmax)]
  | true =>
    cases call with
    | setWindowSize handle size =>
      obtain ⟨reply, hset⟩ := Action.results_of_void hends
      rcases setWindowSize_ends hset with rfl | ⟨-, rfl⟩ | ⟨hnot, happly⟩
      · exact ⟨hruns, hframe, hmaximized, hlayout⟩
      · exact ⟨hruns, hframe, hmaximized, hlayout.observed⟩
      · refine reached_of_applyFrame (browser.asked size) hruns hframe hlayout.observed
          (fun hmax ↦ ?_) happly
        exact absurd (hnot.symm.trans hmax) Bool.false_ne_true
    | showRestored handle =>
      exact reached_of_applyFrame { browser with maximized := false, log := _ } hruns hframe
        ⟨hlayout.viewport, hlayout.pending, hlayout.laidOut⟩ nofun hends
    | maximize handle =>
      exact reached_of_applyFrame
        { browser with maximized := true, restoredFrame := _, log := _ } hruns hframe
        ⟨hlayout.viewport, hlayout.pending, hlayout.laidOut⟩ (fun _ ↦ hframe) hends
    | _ => cases hstays

theorem Reached.performAll (hreached : Reached scenario browser) {calls : List BrowserCall}
    (hends : (performAll calls).results browser = (.ok (), last)) : Reached scenario last := by
  induction calls generalizing browser with
  | nil =>
    cases hends
    exact hreached
  | cons call calls ih =>
    obtain ⟨middle, hcall, hrest⟩ := results_performAll_cons hends
    exact ih (hreached.perform hcall) hrest

/-! ### What the layout says -/

/-- The metrics depend on the viewport that was laid out and on what the scenario says of the
document. -/
theorem results_metrics (browser : SimulatedBrowser) :
    metrics.results browser =
      (if browser.scenario.hasCanvas then
        (viewportOf browser.laidOutViewport browser.scenario.clientInsets).map fun client ↦
          .ok ⟨client, browser.scenario.scroll client⟩
      else .ok (.error (.call "clientWidth" "canvas element is gone")), browser) := by
  unfold metrics
  rw [Action.bind_results, Action.results_inspect, id_eq]
  cases hcanvas : browser.scenario.hasCanvas with
  | false => simp [hcanvas]
  | true =>
    simp only [hcanvas, Bool.not_true, Bool.false_eq_true, if_false, if_true]
    rw [Action.bind_results, Action.results_check]
    cases viewportOf browser.laidOutViewport browser.scenario.clientInsets <;> rfl

/-- A viewport has no negative side. -/
theorem nonnegative_of_viewportOf {outer inner viewport : Size}
    (hviewport : viewportOf outer inner = .ok viewport) : viewport.Nonnegative := by
  obtain ⟨width, -, hbehind⟩ := exists_of_bind hviewport
  obtain ⟨height, -, hlast⟩ := exists_of_bind hbehind
  cases hlast
  exact ⟨by rw [toInt_max_zero]; exact Int.le_max_right _ _,
    by rw [toInt_max_zero]; exact Int.le_max_right _ _⟩

/-- A client area has no negative side, and is no larger than the content. -/
theorem le_scroll_of_metrics {reply : LayoutMetrics}
    (hreply : (metrics.results browser).1 = .ok (.ok reply)) :
    0 ≤ reply.client.width ∧ reply.client.width ≤ reply.scroll.width ∧
      0 ≤ reply.client.height ∧ reply.client.height ≤ reply.scroll.height := by
  have hmax : ∀ content side : Int32, side ≤ max content side := fun content side ↦ by
    rw [Int32.le_iff_toInt_le, toInt_max]
    exact Int.le_max_right _ _
  rw [results_metrics] at hreply
  dsimp only at hreply
  split at hreply
  · cases hclient : viewportOf browser.laidOutViewport browser.scenario.clientInsets with
    | error fault =>
      rw [hclient] at hreply
      cases hreply
    | ok client =>
      rw [hclient] at hreply
      cases hreply
      obtain ⟨hwidth, hheight⟩ := nonnegative_of_viewportOf hclient
      exact ⟨Int32.le_iff_toInt_le.mpr hwidth, hmax _ _, Int32.le_iff_toInt_le.mpr hheight,
        hmax _ _⟩
  · cases hreply

/-- Once no recalculation is pending the metrics are those of a browser that has just been started
with the frame. -/
theorem LaysOut.metrics_eq (hlayout : LaysOut browser) (hruns : browser.scenario = scenario)
    (hpending : browser.pendingRecalculations = 0) {fresh : SimulatedBrowser}
    (hfresh : start { scenario with window := browser.frame } = .ok fresh) :
    (metrics.results browser).1 = (metrics.results fresh).1 := by
  subst hruns
  have hlaidOut := hlayout.laidOut hpending
  rw [start, hlaidOut] at hfresh
  cases hfresh
  rw [results_metrics, results_metrics]
  rfl

/-- The recalculations alone meet no fault. -/
theorem LaysOut.exists_recalculated (hlayout : LaysOut browser) (forces : List Bool) :
    ∃ last,
      (BrowserCall.performAll (forces.map .forceRecalculate)).results browser = (.ok (), last) := by
  induction forces generalizing browser with
  | nil => exact ⟨browser, rfl⟩
  | cons force forces ih =>
    obtain ⟨middle, hforce, hmiddle, -⟩ := hlayout.forceRecalculate force
    obtain ⟨last, hrest⟩ := ih hmiddle
    refine ⟨last, ?_⟩
    rw [List.map_cons, BrowserCall.performAll, Action.bind_results, perform, Action.results_void,
      show (host.forceRecalculate force).results browser = _ from hforce]
    exact hrest

end SimulatedBrowser

open SimulatedBrowser BrowserCall

/-- What holds of a simulated browser behind every history of calls none of which ended with a
fault. A maximized window has the frame of the scenario; no more recalculations are pending than the
lag says, and the layout is the one of the frame when none is. From there as many recalculations as
the lag, with anything between them but a resize, lead to the metrics of a browser that has just
been started with the frame. A client area is never negative, and never larger than the content. -/
theorem performAll_reaches {scenario : Scenario} {browser last : SimulatedBrowser}
    {calls : List BrowserCall} (hstart : start scenario = .ok browser)
    (hends : (performAll calls).results browser = (.ok (), last)) :
    (last.maximized = true → last.frame = scenario.window) ∧
      last.pendingRecalculations ≤ scenario.layoutLag.toNat ∧
      (last.pendingRecalculations = 0 →
        viewportOf last.frame scenario.chrome = .ok last.laidOutViewport) ∧
      (∃ fresh, start { scenario with window := last.frame } = .ok fresh ∧
        ∀ (between : List BrowserCall) (settled : SimulatedBrowser),
          (∀ call ∈ between, call.resizes = false) →
          scenario.layoutLag.toNat ≤ between.countP recalculates →
          (performAll between).results last = (.ok (), settled) →
          ∀ canvas, ((host.metrics canvas).results settled).1 =
            ((host.metrics canvas).results fresh).1) ∧
      (∀ forces : List Bool, ∃ settled,
        (performAll (forces.map .forceRecalculate)).results last = (.ok (), settled)) ∧
      ∀ canvas reply, ((host.metrics canvas).results last).1 = .ok (.ok reply) →
        0 ≤ reply.client.width ∧ reply.client.width ≤ reply.scroll.width ∧
          0 ≤ reply.client.height ∧ reply.client.height ≤ reply.scroll.height := by
  obtain ⟨rfl, -, hmaximized, hlayout⟩ := (reached_of_start hstart).performAll hends
  refine ⟨hmaximized, hlayout.pending, hlayout.laidOut, ?_, hlayout.exists_recalculated,
    fun _ _ ↦ le_scroll_of_metrics⟩
  obtain ⟨fresh, hfresh⟩ :
      ∃ fresh, start { last.scenario with window := last.frame } = .ok fresh := by
    obtain ⟨viewport, hviewport⟩ := hlayout.viewport
    rw [start, hviewport]
    exact ⟨_, rfl⟩
  refine ⟨fresh, hfresh, fun between settled hstays hcount hbetween canvas ↦ ?_⟩
  obtain ⟨hsettled, hwindow, hpending⟩ := hlayout.performAll hstays hbetween
  have hruns : settled.scenario = last.scenario := congrArg WindowState.scenario hwindow
  have hframe : settled.frame = last.frame := congrArg WindowState.frame hwindow
  have hnone : settled.pendingRecalculations = 0 := by
    rw [hpending]
    exact Nat.sub_eq_zero_of_le (Nat.le_trans hlayout.pending hcount)
  refine hsettled.metrics_eq hruns hnone ?_
  rwa [hframe]

/-- The law for a window that was taken out of the maximized state and is put back into it: the
frame is the one of the scenario again, and the layout follows with the next recalculation. -/
theorem performAll_reaches_lagging :
    ∃ browser last,
      start { layoutLag := 2, maximized := true, restoredWindow := some ⟨900, 700⟩ } = .ok browser ∧
      (performAll [.setWindowSize frameWindow ⟨1100, 900⟩, .showRestored frameWindow,
        .setWindowSize contentWindow ⟨1200, 900⟩, .forceRecalculate false,
        .metrics .documentElement, .maximize frameWindow, .forceRecalculate true]).results
          browser = (.ok (), last) ∧
      last.maximized = true ∧ last.pendingRecalculations = 1 ∧ last.frame = ⟨1024, 768⟩ ∧
      last.pendingRecalculations ≤ 2 ∧
      ∃ settled, (performAll [.forceRecalculate true]).results last = (.ok (), settled) := by
  refine ⟨_, _, rfl, rfl, rfl, rfl, ?_⟩
  obtain ⟨hmaximized, hpending, -, -, hrecalculated, -⟩ := @performAll_reaches
    { layoutLag := 2, maximized := true, restoredWindow := some ⟨900, 700⟩ } _ _
    [.setWindowSize frameWindow ⟨1100, 900⟩, .showRestored frameWindow,
      .setWindowSize contentWindow ⟨1200, 900⟩, .forceRecalculate false, .metrics .documentElement,
      .maximize frameWindow, .forceRecalculate true] rfl rfl
  exact ⟨hmaximized rfl, hpending, hrecalculated [true]⟩

end PageCapture
