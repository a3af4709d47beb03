import PageCapture.Browser.Simulated
import PageCapture.Proofs.Action.Contract
import PageCapture.Proofs.Viewport.Room
import PageCapture.Window.Session

/-!
# The window of a simulated browser

`WindowState` is what a simulated browser knows of its window: the frame, whether it is maximized,
the frames that it goes to, and the sizes that it was asked to take. Only three calls change it.
They are followed whichever way they end, for sizes of any kind: a frame has its new size before the
viewport is computed, so a fault finds it moved (`applyFrame_leaves`). Every other call leaves the
window alone, also when it ends with a fault (`LeavesWindow`). Most of them change nothing but the
log and the script (`Observes`); a recalculation changes the layout.
-/

set_option autoImplicit false
set_option relaxedAutoImplicit false

namespace PageCapture

variable {α β : Type}

/-- What a simulated browser knows of its window. -/
structure WindowState where
  scenario : Scenario
  frame : Size
  maximized : Bool
  maximizedFrame : Size
  restoredFrame : Size
  /-- The sizes that the window was asked to take, in order. -/
  resizes : List Size

namespace SimulatedBrowser

/-- The window of a browser. -/
def windowState (browser : SimulatedBrowser) : WindowState where
  scenario := browser.scenario
  frame := browser.frame
  maximized := browser.maximized
  maximizedFrame := browser.maximizedFrame
  restoredFrame := browser.restoredFrame
  resizes := browser.log.resizes

/-- A frame has a viewport: computing it meets no fault. -/
def HasViewport (scenario : Scenario) (frame : Size) : Prop :=
  ∃ viewport, viewportOf frame scenario.chrome = .ok viewport

/-! ### Calls that leave the window alone -/

/-- An action leaves the window as it is, whichever way it ends. -/
def LeavesWindow (action : Action SimulatedBrowser α) : Prop :=
  ∀ browser, (action.results browser).2.windowState = browser.windowState

theorem LeavesWindow.bind {action : Action SimulatedBrowser α}
    {next : α → Action SimulatedBrowser β} (hfirst : LeavesWindow action)
    (hnext : ∀ value, LeavesWindow (next value)) :
    LeavesWindow (action >>= next) := by
  intro browser
  rw [Action.bind_results]
  have hmiddle := hfirst browser
  generalize action.results browser = ends at hmiddle
  rcases ends with ⟨fault | value, middle⟩
  · exact hmiddle
  · exact (hnext value middle).trans hmiddle

theorem leavesWindow_of_still {action : Action SimulatedBrowser α}
    (hstill : ∀ browser, (action.results browser).2 = browser) : LeavesWindow action :=
  fun browser ↦ congrArg windowState (hstill browser)

/-- An action tells what a browser is like, or draws: it changes nothing but the log, where it
enters no resize, and the script. -/
def Observes (action : Action SimulatedBrowser α) : Prop :=
  ∀ browser, ∃ log paint, (action.results browser).2 = { browser with log, paint } ∧
    log.resizes = browser.log.resizes

theorem Observes.leavesWindow {action : Action SimulatedBrowser α} (hobserves : Observes action) :
    LeavesWindow action := by
  intro browser
  obtain ⟨log, paint, hlast, hresizes⟩ := hobserves browser
  rw [hlast]
  change { browser.windowState with resizes := log.resizes } = _
  rw [hresizes]
  rfl

theorem Observes.bind {action : Action SimulatedBrowser α} {next : α → Action SimulatedBrowser β}
    (hfirst : Observes action) (hnext : ∀ value, Observes (next value)) :
    Observes (action >>= next) := by
  intro browser
  rw [Action.bind_results]
  obtain ⟨log, paint, hmiddle, hresizes⟩ := hfirst browser
  generalize action.results browser = ends at hmiddle
  rcases ends with ⟨fault | value, middle⟩
  · exact ⟨log, paint, hmiddle, hresizes⟩
  · obtain rfl : middle = _ := hmiddle
    obtain ⟨lastLog, lastPaint, hlast, hlastResizes⟩ := hnext value { browser with log, paint }
    exact ⟨lastLog, lastPaint, hlast, hlastResizes.trans hresizes⟩

theorem observes_of_still {action : Action SimulatedBrowser α}
    (hstill : ∀ browser, (action.results browser).2 = browser) : Observes action :=
  fun browser ↦ ⟨browser.log, browser.paint, hstill browser, rfl⟩

theorem observes_note {change : CallLog → CallLog}
    (hchange : ∀ log, (change log).resizes = log.resizes) : Observes (note change) :=
  fun browser ↦ ⟨change browser.log, browser.paint, rfl, hchange browser.log⟩

theorem observes_windowSize (handle : WindowHandle) : Observes (windowSize handle) := by
  unfold windowSize onWindow
  split
  · refine (observes_of_still fun _ ↦ rfl).bind fun browser ↦ ?_
    split
    · exact observes_of_still fun _ ↦ rfl
    · split
      · exact (observes_of_still fun _ ↦ rfl).bind fun _ ↦ observes_of_still fun _ ↦ rfl
      · exact observes_of_still fun _ ↦ rfl
  · exact observes_of_still fun _ ↦ rfl

theorem observes_nextPaint : Observes nextPaint := by
  intro browser
  rw [nextPaint, Action.results_ofResults]
  rcases hpaint : browser.paint with _ | ⟨outcome, rest⟩
  · exact ⟨browser.log, browser.paint, rfl, rfl⟩
  · exact ⟨browser.log, rest, rfl, rfl⟩

theorem observes_print (handle : WindowHandle) (bitmap : Bitmap) :
    Observes (print handle bitmap) := by
  have hfinish : ∀ painted, Observes (print.finish painted) := by
    rintro ⟨_ | _, _⟩ <;> exact observes_of_still fun _ ↦ rfl
  unfold print
  split
  · exact observes_of_still fun _ ↦ rfl
  · refine Observes.bind (observes_note fun _ ↦ ?_) fun _ ↦
      observes_nextPaint.bind fun outcome ↦ ?_
    · rfl
    cases outcome with
    | fail => exact observes_of_still fun _ ↦ rfl
    | blank => exact hfinish _
    | painted => exact hfinish _

theorem observes_metrics : Observes metrics := by
  refine (observes_of_still fun _ ↦ rfl).bind fun browser ↦ ?_
  dsimp only
  split
  · exact observes_of_still fun _ ↦ rfl
  · exact (observes_of_still fun _ ↦ rfl).bind fun _ ↦ observes_of_still fun _ ↦ rfl

theorem leavesWindow_forceRecalculate (force : Bool) : LeavesWindow (forceRecalculate force) := by
  have hnote : LeavesWindow
      (note fun log ↦ { log with recalculations := log.recalculations ++ [force] }) :=
    (observes_note fun _ ↦ rfl).leavesWindow
  refine (leavesWindow_of_still fun _ ↦ rfl).bind fun viewport ↦ hnote.bind fun _ ↦
    LeavesWindow.bind (fun browser ↦ ?_) fun _ ↦ leavesWindow_of_still fun _ ↦ rfl
  rw [Action.results_change]
  split <;> rfl

/-! ### Calls that change the window -/

theorem results_applyFrame_of_still {frame : Size} {browser : SimulatedBrowser}
    (hstill : browser.frame = frame) : (applyFrame frame).results browser = (.ok (), browser) := by
  rw [applyFrame, Action.bind_results]
  simp [hstill]

/-- A frame has its new size before the viewport is computed. -/
theorem results_applyFrame_of_moves {frame : Size} {browser : SimulatedBrowser}
    (hmoves : browser.frame ≠ frame) :
    (applyFrame frame).results browser =
      match viewportOf frame browser.scenario.chrome with
      | .ok viewport => (.ok (), layOut viewport { browser with frame })
      | .error fault => (.error fault, { browser with frame }) := by
  rw [applyFrame, Action.bind_results]
  simp only [Action.results_inspect, id_eq, if_pos hmoves]
  rw [Action.bind_results, Action.results_change]
  simp only
  rw [Action.bind_results, viewport, Action.results_ofResults]
  cases viewportOf frame browser.scenario.chrome <;> rfl

/-- Giving the frame a size. It has the size whichever way that ends, and it ends with a value
unless the frame is another one and has no viewport. -/
theorem applyFrame_leaves (frame : Size) (browser : SimulatedBrowser) :
    ((applyFrame frame).results browser).2.windowState = { browser.windowState with frame } ∧
      (((applyFrame frame).results browser).1 = .ok () ∧
          (browser.frame = frame ∨ HasViewport browser.scenario frame) ∨
        ∃ fault, ((applyFrame frame).results browser).1 = .error fault ∧
          ¬ HasViewport browser.scenario frame) := by
  by_cases hstill : browser.frame = frame
  · rw [results_applyFrame_of_still hstill]
    subst hstill
    exact ⟨rfl, .inl ⟨rfl, .inl rfl⟩⟩
  · rw [results_applyFrame_of_moves hstill]
    cases hviewport : viewportOf frame browser.scenario.chrome with
    | error fault =>
      refine ⟨rfl, .inr ⟨fault, rfl, ?_⟩⟩
      rintro ⟨viewport, hsome⟩
      rw [hviewport] at hsome
      cases hsome
    | ok viewport =>
      refine ⟨?_, .inl ⟨rfl, .inr ⟨viewport, hviewport⟩⟩⟩
      simp only [layOut]
      split <;> rfl

/-- A limit leaves a size as it is that is no greater. -/
theorem cut_of_le {limit? : Option Size} {size : Size}
    (hroom : ∀ limit, limit? = some limit →
      size.width ≤ limit.width ∧ size.height ≤ limit.height) : cut limit? size = size := by
  cases limit? with
  | none => rfl
  | some limit =>
    obtain ⟨hwidth, hheight⟩ := hroom limit rfl
    rw [Int32.le_iff_toInt_le] at hwidth hheight
    refine Size.eq_of_toInt ?_ ?_
    · exact (toInt_min _ _).trans (Int.min_eq_left hwidth)
    · exact (toInt_min _ _).trans (Int.min_eq_left hheight)

/-- A browser whose window has been asked to take a size. -/
def asked (size : Size) (browser : SimulatedBrowser) : SimulatedBrowser :=
  { browser with log := { browser.log with resizes := browser.log.resizes ++ [size] } }

/-- A resize names a window of the browser. A maximized window ignores it, and any other takes the
size. -/
theorem results_setWindowSize (handle : WindowHandle) (size : Size) (browser : SimulatedBrowser) :
    (setWindowSize handle size).results browser =
      if handle = frameWindow ∨ handle = contentWindow then
        if browser.maximized then (.ok (.ok ()), browser.asked size)
        else
          (((applyFrame (cut browser.scenario.maxWindow size)).results
              (browser.asked size)).1.map .ok,
            ((applyFrame (cut browser.scenario.maxWindow size)).results (browser.asked size)).2)
      else (.ok (.error (.noSuchWindow handle)), browser) := by
  unfold setWindowSize onWindow
  split
  · rw [note, Action.bind_results, Action.results_change]
    change (Action.inspect id >>= _).results (browser.asked size) = _
    rw [Action.bind_results, Action.results_inspect, id_eq]
    simp only
    rw [show (browser.asked size).maximized = browser.maximized from rfl,
      show (browser.asked size).scenario = browser.scenario from rfl]
    cases browser.maximized with
    | true => rfl
    | false =>
      simp only [Bool.not_false, if_true, Bool.false_eq_true, if_false]
      rw [Action.bind_results]
      rcases (applyFrame (cut browser.scenario.maxWindow size)).results (browser.asked size)
        with ⟨_ | _, _⟩ <;> rfl
  · rfl

/-- A resize without a fault leaves the browser as it is, or has asked its window to take the size.
Unless the window is maximized its frame has been given the size then. -/
theorem setWindowSize_ends {handle : WindowHandle} {size : Size} {browser last : SimulatedBrowser}
    {reply : Except HostError Unit}
    (hends : (setWindowSize handle size).results browser = (.ok reply, last)) :
    last = browser ∨ browser.maximized = true ∧ last = browser.asked size ∨
      browser.maximized = false ∧
        (applyFrame (cut browser.scenario.maxWindow size)).results (browser.asked size) =
          (.ok (), last) := by
  rw [results_setWindowSize] at hends
  split at hends
  · cases hmaximized : browser.maximized with
    | true =>
      rw [hmaximized, if_pos rfl] at hends
      cases hends
      exact .inr (.inl ⟨rfl, rfl⟩)
    | false =>
      rw [hmaximized, if_neg Bool.false_ne_true] at hends
      refine .inr (.inr ⟨rfl, ?_⟩)
      generalize
        (applyFrame (cut browser.scenario.maxWindow size)).results (browser.asked size) = ends
        at hends ⊢
      obtain ⟨fault | _, after⟩ := ends <;> cases hends
      rfl
  · cases hends
    exact .inl rfl

/-- A resize of a window that is not maximized. -/
theorem setWindowSize_leaves (size : Size) {browser : SimulatedBrowser}
    (hmaximized : browser.maximized = false) :
    ((setWindowSize frameWindow size).results browser).2.windowState =
        { browser.windowState with
          frame := cut browser.scenario.maxWindow size
          resizes := browser.log.resizes ++ [size] } ∧
      (((setWindowSize frameWindow size).results browser).1 = .ok (.ok ()) ∧
          (browser.frame = cut browser.scenario.maxWindow size ∨
            HasViewport browser.scenario (cut browser.scenario.maxWindow size)) ∨
        ∃ fault, ((setWindowSize frameWindow size).results browser).1 = .error fault ∧
          ¬ HasViewport browser.scenario (cut browser.scenario.maxWindow size)) := by
  obtain ⟨hleft, hends⟩ :=
    applyFrame_leaves (cut browser.scenario.maxWindow size) (browser.asked size)
  rw [results_setWindowSize, if_pos (.inl rfl),
    if_neg (by rw [hmaximized]; exact Bool.false_ne_true)]
  refine ⟨hleft, ?_⟩
  rcases hends with ⟨hok, hviewport⟩ | ⟨fault, hfault, hviewport⟩
  · rw [hok]
    exact .inl ⟨rfl, hviewport⟩
  · rw [hfault]
    exact .inr ⟨fault, rfl, hviewport⟩

/-- Leaving the maximized state. -/
theorem showRestored_leaves (browser : SimulatedBrowser) :
    (showRestored.results browser).2.windowState =
        { browser.windowState with maximized := false, frame := browser.restoredFrame } ∧
      ((showRestored.results browser).1 = .ok () ∧
          (browser.frame = browser.restoredFrame ∨
            HasViewport browser.scenario browser.restoredFrame) ∨
        ∃ fault, (showRestored.results browser).1 = .error fault ∧
          ¬ HasViewport browser.scenario browser.restoredFrame) := by
  obtain ⟨hleft, hends⟩ := applyFrame_leaves browser.restoredFrame
    { browser with
      maximized := false
      log := { browser.log with demaximizeCalls := browser.log.demaximizeCalls + 1 } }
  exact ⟨hleft, hends⟩

/-- Entering the maximized state. -/
theorem maximize_leaves (browser : SimulatedBrowser) :
    (maximize.results browser).2.windowState =
        { browser.windowState with
          restoredFrame := if browser.maximized then browser.restoredFrame else browser.frame
          maximized := true
          frame := browser.maximizedFrame } ∧
      ((maximize.results browser).1 = .ok () ∨
        ∃ fault, (maximize.results browser).1 = .error fault ∧
          ¬ HasViewport browser.scenario browser.maximizedFrame) := by
  obtain ⟨hleft, hends⟩ := applyFrame_leaves browser.maximizedFrame
    { browser with
      restoredFrame := if browser.maximized then browser.restoredFrame else browser.frame
      maximized := true
      log := { browser.log with maximizeCalls := browser.log.maximizeCalls + 1 } }
  exact ⟨hleft, hends.imp_left (·.1)⟩

/-- The size of the frame, or the refusal to tell it. -/
theorem results_windowSize_frame (browser : SimulatedBrowser) :
    (windowSize frameWindow).results browser =
      (.ok (if browser.scenario.windowSizeFails then
        .error (.call "GetWindowRect" "simulated failure") else .ok browser.frame), browser) := by
  rw [windowSize, onWindow, if_pos (.inl rfl), Action.bind_results, Action.results_inspect, id_eq]
  cases hfails : browser.scenario.windowSizeFails <;>
    simp [hfails, frameWindow, contentWindow]

/-- A resize is the call for it: reading the size back meets no fault. -/
theorem resize_leaves (size : Size) {browser : SimulatedBrowser}
    (hmaximized : browser.maximized = false) :
    ((resize host.toWindowSystem frameWindow size).results browser).2.windowState =
        { browser.windowState with
          frame := cut browser.scenario.maxWindow size
          resizes := browser.log.resizes ++ [size] } ∧
      ((∃ observed, ((resize host.toWindowSystem frameWindow size).results browser).1 =
            .ok observed ∧
          (browser.frame = cut browser.scenario.maxWindow size ∨
            HasViewport browser.scenario (cut browser.scenario.maxWindow size))) ∨
        ∃ fault, ((resize host.toWindowSystem frameWindow size).results browser).1 =
            .error fault ∧
          ¬ HasViewport browser.scenario (cut browser.scenario.maxWindow size)) := by
  obtain ⟨hleft, hends⟩ := setWindowSize_leaves size hmaximized
  change ((setWindowSize frameWindow size >>= _).results browser).2.windowState = _ ∧
    ((∃ observed, ((setWindowSize frameWindow size >>= _).results browser).1 = _ ∧ _) ∨
      ∃ fault, ((setWindowSize frameWindow size >>= _).results browser).1 = _ ∧ _)
  rw [Action.bind_results]
  generalize (setWindowSize frameWindow size).results browser = ends at hleft hends
  obtain ⟨ended, last⟩ := ends
  rcases hends with ⟨hok, hviewport⟩ | ⟨fault, hfault, hviewport⟩
  · obtain rfl : ended = .ok (.ok ()) := hok
    simp only
    rw [Action.bind_results, show (host.windowSize frameWindow).results last = _ from
      results_windowSize_frame last]
    simp only
    split <;> exact ⟨hleft, .inl ⟨_, rfl, hviewport⟩⟩
  · obtain rfl : ended = .error fault := hfault
    exact ⟨hleft, .inr ⟨fault, rfl, hviewport⟩⟩

/-- Putting a window back that is not maximized: it is maximized, or its frame is resized. It ends
with a value unless the frame that the window then has is without a viewport. -/
theorem restoreWindow_leaves (initial : Size) (wasMaximized : Bool) {browser : SimulatedBrowser}
    (hmaximized : browser.maximized = false) :
    ((restoreWindow host.toWindowSystem frameWindow initial wasMaximized).results
        browser).2.windowState =
        (if wasMaximized then
          { browser.windowState with
            restoredFrame := browser.frame
            maximized := true
            frame := browser.maximizedFrame }
        else
          { browser.windowState with
            frame := cut browser.scenario.maxWindow initial
            resizes := browser.log.resizes ++ [initial] }) ∧
      (((restoreWindow host.toWindowSystem frameWindow initial wasMaximized).results browser).1 =
          .ok () ∨
        ¬ HasViewport browser.scenario ((restoreWindow host.toWindowSystem frameWindow initial
          wasMaximized).results browser).2.frame) := by
  cases wasMaximized with
  | true =>
    obtain ⟨hleft, hends⟩ := maximize_leaves browser
    rw [hmaximized] at hleft
    refine ⟨hleft, hends.imp_right fun ⟨_, _, hnone⟩ ↦ ?_⟩
    have hframe : (maximize.results browser).2.frame = browser.maximizedFrame :=
      congrArg WindowState.frame hleft
    change ¬ HasViewport browser.scenario (maximize.results browser).2.frame
    rwa [hframe]
  | false =>
    obtain ⟨hleft, hends⟩ := resize_leaves initial hmaximized
    have hframe := congrArg WindowState.frame hleft
    rw [restoreWindow, if_neg Bool.false_ne_true, if_neg Bool.false_ne_true, Action.bind_results]
    generalize (resize host.toWindowSystem frameWindow initial).results browser = ends
      at hleft hends hframe ⊢
    obtain ⟨ended, last⟩ := ends
    rcases hends with ⟨observed, hok, -⟩ | ⟨fault, hfault, hnone⟩
    · obtain rfl : ended = .ok observed := hok
      exact ⟨hleft, .inl rfl⟩
    · obtain rfl : ended = .error fault := hfault
      refine ⟨hleft, .inr ?_⟩
      change ¬ HasViewport browser.scenario last.frame
      rwa [show last.frame = _ from hframe]

/-- A session begins with what the window is like, or with the refusal to tell its size. -/
theorem results_begin_frame (browser : SimulatedBrowser) :
    (ResizeSession.begin host.toWindowSystem frameWindow).results browser =
      (.ok (if browser.scenario.windowSizeFails then
          .error (.call "GetWindowRect" "simulated failure")
        else .ok
          { handle := frameWindow, initial := browser.frame, wasMaximized := browser.maximized }),
        browser) := by
  rw [ResizeSession.begin, Action.bind_results,
    show (host.windowSize frameWindow).results browser = _ from results_windowSize_frame browser]
  cases browser.scenario.windowSizeFails <;> rfl

end SimulatedBrowser

end PageCapture
