import PageCapture.Proofs.Browser.Request

/-!
# The window of a simulated browser after a request

A request leaves the window of a simulated browser as it found it, also when it breaks off with a
fault, with one exception. The window may be somewhere else while a session is held (`Away`); the
session knows that, and closing it brings the window home (`close_away`). But a session learns that
a window has left the maximized state only behind the call that takes it out. When that call ends
with a fault the window has moved already, the session does not know, and nothing brings it back: it
is `Stranded`.

`takeScreenshot_recovers` says that there is no other way to lose the window, for sizes and options
of any kind. A window is stranded only if it was maximized and the frame that it is restored to has
no viewport (`takeScreenshot_recovers_stranded` is such a request).
-/

set_option autoImplicit false
set_option relaxedAutoImplicit false

namespace PageCapture

/-- The frame that a window takes when it leaves the maximized state for the first time. -/
def Scenario.restoredFrame (scenario : Scenario) : Size :=
  scenario.restoredWindow.getD scenario.window

namespace SimulatedBrowser

variable {α : Type}

/-! ### Where the window is -/

/-- The window is where the scenario has put it. The frame that it would be restored to is the one
of the scenario, or has a viewport. -/
structure Home (scenario : Scenario) (window : WindowState) : Prop where
  runs : window.scenario = scenario
  frame : window.frame = scenario.window
  maximized : window.maximized = scenario.maximized
  maximizedFrame : window.maximizedFrame = scenario.window
  restoredFrame : window.restoredFrame = scenario.restoredFrame ∨
    HasViewport scenario window.restoredFrame

/-- The window has been taken away, and can be brought back. -/
structure Away (scenario : Scenario) (window : WindowState) : Prop where
  runs : window.scenario = scenario
  maximized : window.maximized = false
  maximizedFrame : window.maximizedFrame = scenario.window
  restoredFrame : window.restoredFrame = scenario.restoredFrame ∨
    HasViewport scenario window.restoredFrame

/-- A maximized window has been restored to a frame without a viewport. -/
structure Stranded (scenario : Scenario) (window : WindowState) : Prop where
  was : scenario.maximized = true
  maximized : window.maximized = false
  frame : window.frame = scenario.restoredFrame
  viewport : ¬ HasViewport scenario scenario.restoredFrame

/-- A session that began with the window at home. -/
structure Began (scenario : Scenario) (session : ResizeSession) : Prop where
  handle : session.handle = frameWindow
  initial : session.initial = scenario.window
  wasMaximized : session.wasMaximized = scenario.maximized

/-- Under a session the window is at home, or it is away and the session knows it. -/
def Watched (scenario : Scenario) (held : Held SimulatedBrowser) : Prop :=
  Began scenario held.session ∧
    (held.session.demaximized = false ∧ held.session.resized = false ∧
        Home scenario held.host.windowState ∨
      held.session.demaximized = held.session.wasMaximized ∧ held.session.resized = true ∧
        Away scenario held.host.windowState ∧ HasViewport scenario held.host.frame)

/-- What a fault leaves under a session. -/
def Dropped (scenario : Scenario) (held : Held SimulatedBrowser) : Prop :=
  Began scenario held.session ∧
    (held.session.isMutated = false ∧
        (Home scenario held.host.windowState ∨ Stranded scenario held.host.windowState) ∨
      held.session.isMutated = true ∧ Away scenario held.host.windowState)

/-- What a fault leaves behind an attempt. -/
def Left (scenario : Scenario) (window : WindowState) : Prop :=
  window.frame = scenario.window ∧ window.maximized = scenario.maximized ∨
    Stranded scenario window

theorem Watched.dropped {scenario : Scenario} {held : Held SimulatedBrowser}
    (hheld : Watched scenario held) : Dropped scenario held := by
  obtain ⟨hbegan, ⟨hnot, hstill, hhome⟩ | ⟨-, hresized, haway, -⟩⟩ := hheld
  · exact ⟨hbegan, .inl ⟨by rw [ResizeSession.isMutated, hnot, hstill]; rfl, .inl hhome⟩⟩
  · exact ⟨hbegan, .inr ⟨by rw [ResizeSession.isMutated, hresized, Bool.or_true], haway⟩⟩

section Recovery

variable {scenario : Scenario}

/-! ### Resizes -/

/-- A resize keeps a window that is away in reach, and unless it ends with a fault its frame has a
viewport. -/
theorem resize_away (size : Size) {browser : SimulatedBrowser}
    (haway : Away scenario browser.windowState) (hviewport : HasViewport scenario browser.frame) :
    Away scenario ((resize host.toWindowSystem frameWindow size).results browser).2.windowState ∧
      ∀ observed, ((resize host.toWindowSystem frameWindow size).results browser).1 = .ok observed →
        HasViewport scenario
          ((resize host.toWindowSystem frameWindow size).results browser).2.frame := by
  obtain ⟨hleft, hends⟩ := resize_leaves size haway.maximized
  obtain rfl := haway.runs
  refine ⟨hleft ▸ ⟨rfl, haway.maximized, haway.maximizedFrame, haway.restoredFrame⟩, ?_⟩
  rintro observed hobserved
  rw [show ((resize host.toWindowSystem frameWindow size).results browser).2.frame = _ from
    congrArg WindowState.frame hleft]
  rcases hends with ⟨-, -, hstill | hmoved⟩ | ⟨fault, hfault, -⟩
  · rwa [← hstill]
  · exact hmoved
  · rw [hfault] at hobserved
    cases hobserved

/-! ### Attempts -/

/-- Browsers whose window is at home, beside themselves. -/
def homeAlignment (scenario : Scenario) : Alignment SimulatedBrowser SimulatedBrowser :=
  .alone (fun browser ↦ Home scenario browser.windowState)
    (fun browser ↦ Left scenario browser.windowState) True
    fun _ _ hhome ↦ .inl ⟨hhome.frame, hhome.maximized⟩

/-- Sessions that keep watch of the window, beside themselves. -/
def watchedAlignment (scenario : Scenario) :
    Alignment (Held SimulatedBrowser) (Held SimulatedBrowser) :=
  .alone (Watched scenario) (Dropped scenario) True fun _ _ hheld ↦ hheld.dropped

/-- A call that leaves the window alone keeps watch of it. -/
theorem agree_watched {good : α → Prop} {action : Action SimulatedBrowser α}
    (hleaves : LeavesWindow action) (hgood : ∀ value, good value) :
    (watchedAlignment scenario).Agree good (Held.asking action) (Held.asking action) := by
  refine Alignment.agree_alone fun held hheld ↦ ?_
  rw [Attempt.results_asking]
  have hlast : Watched scenario ⟨held.session, (action.results held.host).2⟩ := by
    have hframe := congrArg WindowState.frame (hleaves held.host)
    unfold Watched at hheld ⊢
    rw [hleaves held.host, show (action.results held.host).2.frame = held.host.frame from hframe]
    exact hheld
  exact ⟨fun _ _ ↦ hlast.dropped, fun value _ ↦ ⟨hlast, hgood value⟩⟩

section Home

variable (hstart : HasViewport scenario scenario.window)

include hstart

/-- How a maximized window leaves home: it is away then, or a fault has stranded it. -/
theorem showRestored_home (hmaximized : scenario.maximized = true) {browser : SimulatedBrowser}
    (hhome : Home scenario browser.windowState) :
    (showRestored.results browser).1 = .ok () ∧
        Away scenario (showRestored.results browser).2.windowState ∧
        HasViewport scenario (showRestored.results browser).2.frame ∨
      (∃ fault, (showRestored.results browser).1 = .error fault) ∧
        Stranded scenario (showRestored.results browser).2.windowState := by
  obtain ⟨hmoved, hends⟩ := showRestored_leaves browser
  have hframe := congrArg WindowState.frame hmoved
  obtain ⟨hruns, hhomeFrame, -, hmaximizedFrame, hrestored⟩ := hhome
  rw [show browser.scenario = scenario from hruns] at hends
  rcases hends with ⟨hok, hviewport⟩ | ⟨fault, hfault, hviewport⟩
  · refine .inl ⟨hok, hmoved ▸ ⟨hruns, rfl, hmaximizedFrame, hrestored⟩, ?_⟩
    rw [show (showRestored.results browser).2.frame = browser.restoredFrame from hframe]
    rcases hviewport with hsame | hviewport
    · rwa [← hsame, show browser.frame = scenario.window from hhomeFrame]
    · exact hviewport
  · have hplace : browser.restoredFrame = scenario.restoredFrame :=
      hrestored.resolve_right hviewport
    exact .inr ⟨⟨fault, hfault⟩, hmoved ▸ ⟨hmaximized, rfl, hplace, hplace ▸ hviewport⟩⟩

/-- How a window leaves the maximized state under a session: it is away then and the session knows
it, or a fault has left it where nothing brings it back. -/
theorem leaveMaximized_watched {held : Held SimulatedBrowser} (hheld : Watched scenario held) :
    (∃ between, (Held.leaveMaximized host.toWindowSystem).results held = (.ok (), between) ∧
        Began scenario between.session ∧
        between.session.demaximized = between.session.wasMaximized ∧
        Away scenario between.host.windowState ∧ HasViewport scenario between.host.frame) ∨
      ∃ fault last, (Held.leaveMaximized host.toWindowSystem).results held = (.error fault, last) ∧
        Dropped scenario last := by
  obtain ⟨hbegan, ⟨hnot, hstill, hhome⟩ | ⟨hleft, -, haway, hviewport⟩⟩ := hheld
  · cases hmaximized : scenario.maximized with
    | false =>
      have hwas : held.session.demaximized = held.session.wasMaximized := by
        rw [hnot, hbegan.wasMaximized, hmaximized]
      refine .inl ⟨held, Held.results_leaveMaximized_of_left hwas, hbegan, hwas,
        ⟨hhome.runs, hhome.maximized.trans hmaximized, hhome.maximizedFrame,
          hhome.restoredFrame⟩, ?_⟩
      rwa [show held.host.frame = scenario.window from hhome.frame]
    | true =>
      have hwas := hbegan.wasMaximized.trans hmaximized
      have hends := showRestored_home hstart hmaximized hhome
      rcases hshow : showRestored.results held.host with ⟨ended, last⟩
      have hcall : (host.showRestored held.session.handle).results held.host = _ := hshow
      rw [hshow] at hends
      rcases hends with ⟨hok, haway, hviewport⟩ | ⟨⟨fault, hfault⟩, hstranded⟩
      · obtain rfl : ended = .ok () := hok
        exact .inl ⟨_, Held.results_leaveMaximized hwas hnot hcall,
          ⟨hbegan.handle, hbegan.initial, hbegan.wasMaximized⟩, hwas.symm, haway, hviewport⟩
      · obtain rfl : ended = .error fault := hfault
        refine .inr ⟨fault, _, Held.results_leaveMaximized_of_fault hwas hnot hcall, hbegan,
          .inl ⟨?_, .inr hstranded⟩⟩
        rw [ResizeSession.isMutated, hnot, hstill]
        rfl
  · exact .inl ⟨held, Held.results_leaveMaximized_of_left hleft, hbegan, hleft, haway, hviewport⟩

/-- A resize under a session keeps watch of the window, unless a fault has stranded it. -/
theorem resizeTo_watched (size : Size) :
    Action.Ends (Watched scenario) (Held.resizeTo host.toWindowSystem size) fun ended last ↦
      (∀ fault, ended = .error fault → Dropped scenario last) ∧
        ∀ observed, ended = .ok observed → Watched scenario last ∧ True := by
  intro held hheld
  rcases leaveMaximized_watched hstart hheld with
    ⟨between, hleave, hbegan, hleft, haway, hviewport⟩ | ⟨fault, last, hleave, hdropped⟩
  · obtain ⟨hlast, hviewport⟩ := resize_away size haway hviewport
    rw [Held.results_resizeTo_of_left hleave, hbegan.handle]
    have hagain : Began scenario { between.session with resized := true } :=
      ⟨hbegan.handle, hbegan.initial, hbegan.wasMaximized⟩
    refine ⟨fun fault _ ↦ ⟨hagain, .inr ⟨?_, hlast⟩⟩, fun observed hobserved ↦ ⟨⟨hagain,
      .inr ⟨hleft, rfl, hlast, hviewport observed hobserved⟩⟩, trivial⟩⟩
    exact Bool.or_true _
  · rw [Held.results_resizeTo_of_fault hleave]
    exact ⟨fun _ _ ↦ hdropped, nofun⟩

theorem under_watched (target : CaptureTarget) :
    (watchedAlignment scenario).Under host host target where
  initial := by
    rintro one other ⟨rfl, -⟩
    exact ⟨rfl, .inl trivial⟩
  view := agree_watched (observes_windowSize _).leavesWindow fun _ _ _ ↦ .inl trivial
  metrics := agree_watched observes_metrics.leavesWindow fun _ _ _ ↦ .inl trivial
  forceRecalculate force :=
    (agree_watched (leavesWindow_forceRecalculate force) fun _ ↦ trivial).since true
  pixelFormat := agree_watched (leavesWindow_of_still fun _ ↦ rfl) fun _ ↦ trivial
  print bitmap _ := agree_watched (observes_print _ bitmap).leavesWindow fun _ ↦ .inl trivial
  redraw := agree_watched (observes_note fun _ ↦ rfl).leavesWindow fun _ ↦ trivial
  resizeTo size _ := Alignment.agree_alone (resizeTo_watched hstart size)

variable (hroom : ∀ limit, scenario.maxWindow = some limit →
    scenario.window.width ≤ limit.width ∧ scenario.window.height ≤ limit.height)

include hroom

/-- Closing a session brings a window home that is away. -/
theorem close_away {session : ResizeSession} (hbegan : Began scenario session)
    (hmutated : session.isMutated = true) {browser : SimulatedBrowser}
    (haway : Away scenario browser.windowState) :
    ∃ last, (session.close host.toWindowSystem).results browser = (.ok (), last) ∧
      last.frame = scenario.window ∧ last.maximized = scenario.maximized ∧
      (HasViewport scenario browser.frame → Home scenario last.windowState) := by
  rw [ResizeSession.close_of_mutated hmutated, hbegan.handle, hbegan.initial, hbegan.wasMaximized]
  obtain ⟨hleft, hends⟩ :=
    restoreWindow_leaves scenario.window scenario.maximized haway.maximized
  rw [show browser.scenario = scenario from haway.runs, cut_of_le hroom,
    show browser.maximizedFrame = scenario.window from haway.maximizedFrame] at hleft
  generalize (restoreWindow host.toWindowSystem frameWindow scenario.window
    scenario.maximized).results browser = ends at hleft hends ⊢
  obtain ⟨ended, last⟩ := ends
  have hframe : last.frame = scenario.window := by
    refine (congrArg WindowState.frame hleft).trans ?_
    split <;> rfl
  have hmaximized : last.maximized = scenario.maximized := by
    refine (congrArg WindowState.maximized hleft).trans ?_
    split
    · exact Eq.symm ‹_›
    · exact haway.maximized.trans (Bool.eq_false_iff.mpr ‹_›).symm
  obtain rfl : ended = .ok () := by
    refine hends.resolve_right fun hnone ↦ hnone ?_
    rw [show browser.scenario = scenario from haway.runs, hframe]
    exact hstart
  refine ⟨last, rfl, hframe, hmaximized, fun hviewport ↦ ⟨?_, hframe, hmaximized, ?_, ?_⟩⟩
  · refine (congrArg WindowState.scenario hleft).trans ?_
    split <;> exact haway.runs
  · refine (congrArg WindowState.maximizedFrame hleft).trans ?_
    split <;> exact haway.maximizedFrame
  · rw [show last.windowState = _ from hleft]
    split
    · exact .inr hviewport
    · exact haway.restoredFrame

/-- Closing a session brings the window home, unless a fault has stranded it. -/
theorem closes_watched :
    (homeAlignment scenario).Closes (watchedAlignment scenario) host host where
  holds := by
    rintro _ held ⟨rfl, hbegan, ⟨hnot, hstill, hwindow⟩ | ⟨-, hresized, haway, hviewport⟩⟩
    · have huntouched : held.session.isMutated = false := by
        rw [ResizeSession.isMutated, hnot, hstill]
        rfl
      rw [ResizeSession.results_close_of_untouched huntouched]
      exact ⟨rfl, ⟨rfl, hwindow⟩, trivial⟩
    · have hmutated : held.session.isMutated = true := by
        rw [ResizeSession.isMutated, hresized, Bool.or_true]
      obtain ⟨last, hclose, -, -, hlast⟩ := close_away hstart hroom hbegan hmutated haway
      rw [hclose]
      exact ⟨rfl, ⟨rfl, hlast hviewport⟩, trivial⟩
  fallen := by
    rintro _ held ⟨rfl, hbegan, ⟨huntouched, hwindow⟩ | ⟨hmutated, haway⟩⟩
    · rw [ResizeSession.results_close_of_untouched huntouched]
      exact ⟨rfl, hwindow.imp_left fun hwindow ↦ ⟨hwindow.frame, hwindow.maximized⟩⟩
    · obtain ⟨last, hclose, hframe, hmaximized, -⟩ := close_away hstart hroom hbegan hmutated haway
      rw [hclose]
      exact ⟨rfl, .inl ⟨hframe, hmaximized⟩⟩

/-- Attempts bring the window home, unless a fault has stranded it. -/
theorem attempts_home {target : CaptureTarget} (htarget : target.topLevel = frameWindow) :
    (homeAlignment scenario).Attempts host host target := by
  rintro _ browser ⟨rfl, hhome⟩
  have hbegin := results_begin_frame browser
  rw [← htarget] at hbegin
  cases hfails : browser.scenario.windowSizeFails with
  | true =>
    rw [hfails] at hbegin
    exact .refused hbegin hbegin ⟨rfl, hhome⟩
  | false =>
    rw [hfails] at hbegin
    exact .begun (watchedAlignment scenario) hbegin hbegin ⟨rfl, ⟨htarget, hhome.frame,
      hhome.maximized⟩, .inl ⟨rfl, rfl, hhome⟩⟩ Iff.rfl (under_watched hstart target)
      (closes_watched hstart hroom)

/-- A request keeps the window at home, unless a fault has stranded it. -/
theorem agree_takeScreenshot_home (options : CaptureOptions) :
    (homeAlignment scenario).Agree (fun _ ↦ True) (takeScreenshot host options)
      (takeScreenshot host options) := by
  have hruns : ∀ one other, (homeAlignment scenario).holds one other →
      one.scenario = scenario ∧ other.scenario = scenario := by
    rintro one _ ⟨rfl, hhome⟩
    exact ⟨hhome.runs, hhome.runs⟩
  exact agree_request rfl rfl hruns (.inl trivial) fun _ _ ↦ attempts_home hstart hroom rfl

end Home

/-- A browser that has been started has its window at home. -/
theorem home_of_start {browser : SimulatedBrowser} (hstart : start scenario = .ok browser) :
    HasViewport scenario scenario.window ∧ Home scenario browser.windowState := by
  obtain ⟨viewport, hviewport, hbrowser⟩ := exists_of_bind hstart
  cases hbrowser
  exact ⟨⟨viewport, hviewport⟩, rfl, rfl, rfl, rfl, .inl rfl⟩

/-- A frame without a viewport meets a fault. -/
theorem exists_fault_of_not_hasViewport {frame : Size} (hnone : ¬ HasViewport scenario frame) :
    ∃ fault, viewportOf frame scenario.chrome = .error fault := by
  cases hviewport : viewportOf frame scenario.chrome with
  | error fault => exact ⟨fault, rfl⟩
  | ok viewport => exact absurd ⟨viewport, hviewport⟩ hnone

end Recovery

end SimulatedBrowser

/-! ### A request -/

/-- What a request to a simulated browser leaves of its window. Assumes: a scenario that can be
started, with a frame that is not cut to less than it has. Whichever way the request ends, the frame
and the maximized state are as before, unless the window was maximized and the frame that it is
restored to has no viewport: then a request that ends with a fault may leave the window there. -/
theorem takeScreenshot_recovers {scenario : Scenario} {browser : SimulatedBrowser}
    (hstart : SimulatedBrowser.start scenario = .ok browser)
    (hroom : ∀ limit, scenario.maxWindow = some limit →
      scenario.window.width ≤ limit.width ∧ scenario.window.height ≤ limit.height)
    (options : CaptureOptions) :
    (((takeScreenshot SimulatedBrowser.host options).results browser).2.frame = scenario.window ∧
        ((takeScreenshot SimulatedBrowser.host options).results browser).2.maximized =
          scenario.maximized) ∨
      (∃ fault, ((takeScreenshot SimulatedBrowser.host options).results browser).1 =
          .error fault) ∧
        scenario.maximized = true ∧
        (∃ fault, SimulatedBrowser.viewportOf scenario.restoredFrame scenario.chrome =
          .error fault) ∧
        ((takeScreenshot SimulatedBrowser.host options).results browser).2.frame =
          scenario.restoredFrame ∧
        ((takeScreenshot SimulatedBrowser.host options).results browser).2.maximized = false := by
  obtain ⟨hviewport, hhome⟩ := SimulatedBrowser.home_of_start hstart
  have hagree := SimulatedBrowser.agree_takeScreenshot_home hviewport hroom options
  obtain ⟨hfault, hvalue⟩ := hagree.ends browser hhome
  cases hended : ((takeScreenshot SimulatedBrowser.host options).results browser).1 with
  | ok response =>
    obtain ⟨hlast, -⟩ := hvalue response hended
    exact .inl ⟨hlast.frame, hlast.maximized⟩
  | error fault =>
    rcases hfault fault hended with hlast | hstranded
    · exact .inl hlast
    · exact .inr ⟨⟨fault, rfl⟩, hstranded.was,
        SimulatedBrowser.exists_fault_of_not_hasViewport hstranded.viewport, hstranded.frame,
        hstranded.maximized⟩

/-- The law for a request that breaks off: a maximized window is taken out of that state and
widened, and then its height would have to leave the range of lengths. It is restored behind the
fault. -/
theorem takeScreenshot_recovers_brokenOff :
    ∃ browser,
      SimulatedBrowser.start
        { window := ⟨1000, 2147483647⟩, chrome := ⟨0, 2147483000⟩, clientInsets := ⟨0, 0⟩
          content := ⟨2000, 2000⟩, maximized := true, restoredWindow := some ⟨900, 700⟩ } =
        .ok browser ∧
      ((((takeScreenshot SimulatedBrowser.host {}).results browser).2.frame = ⟨1000, 2147483647⟩ ∧
          ((takeScreenshot SimulatedBrowser.host {}).results browser).2.maximized = true) ∨
        (∃ fault, ((takeScreenshot SimulatedBrowser.host {}).results browser).1 = .error fault) ∧
          true = true ∧
          (∃ fault, SimulatedBrowser.viewportOf ⟨900, 700⟩ ⟨0, 2147483000⟩ = .error fault) ∧
          ((takeScreenshot SimulatedBrowser.host {}).results browser).2.frame = ⟨900, 700⟩ ∧
          ((takeScreenshot SimulatedBrowser.host {}).results browser).2.maximized = false) ∧
      ((takeScreenshot SimulatedBrowser.host {}).results browser).1.toOption = none ∧
      ((takeScreenshot SimulatedBrowser.host {}).results browser).2.log.resizes =
        [⟨2000, 2147483647⟩] := by
  refine ⟨_, rfl, ?_, by decide +kernel, by decide +kernel⟩
  exact @takeScreenshot_recovers
    { window := ⟨1000, 2147483647⟩, chrome := ⟨0, 2147483000⟩, clientInsets := ⟨0, 0⟩
      content := ⟨2000, 2000⟩, maximized := true, restoredWindow := some ⟨900, 700⟩ } _ rfl nofun {}

/-- A maximized window whose restored frame has no viewport is lost: the fault comes when the window
has moved already and before the session knows it. -/
theorem takeScreenshot_recovers_stranded :
    ∃ browser,
      SimulatedBrowser.start
        { content := ⟨600, 2000⟩, maximized := true, restoredWindow := some ⟨-2147483648, 768⟩ } =
        .ok browser ∧
      browser.frame = ⟨1024, 768⟩ ∧ browser.maximized = true ∧
      ((takeScreenshot SimulatedBrowser.host {}).results browser).2.frame = ⟨-2147483648, 768⟩ ∧
      ((takeScreenshot SimulatedBrowser.host {}).results browser).2.maximized = false :=
  ⟨_, rfl, rfl, rfl, by decide +kernel, by decide +kernel⟩

end PageCapture
