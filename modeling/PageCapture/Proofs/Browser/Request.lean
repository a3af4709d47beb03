import PageCapture.Browser.Simulated
import PageCapture.Proofs.Browser.Attempt
import PageCapture.Proofs.Host.SideBySide

/-!
# Requests to a simulated browser

`Scene.answered` is the answer that a number of attempts come to, as a function of the scene that
they begin with, and `simulateScreenshot_eq` says that a request in a scenario that is ready is
answered so. In a scenario that is not, it is answered with the `Scenario.refusal`, whatever the
script says (`simulateScreenshot_of_unready`).
-/

set_option autoImplicit false
set_option relaxedAutoImplicit false

namespace PageCapture

/-- The answer that some attempts come to. -/
def Scene.answered (scenario : Scenario) (options : CaptureOptions) :
    (attempts : Nat) → Scene → Response
  | 0, _ => .success ""
  | attempts + 1, scene =>
    (scene.outcome scenario options).1.elim
      (answered scenario options attempts (scene.next scenario options))
      fun outcome ↦ answer (outcome.picture (scene.resolved scenario options).1)

/-! ### The survey -/

/-- What a scenario lacks of the things that a request needs, with the error that says so. -/
def Scenario.missing? (scenario : Scenario) : Option CaptureError :=
  if scenario.hasWindow = false then
    some (.windowUnavailable "No browser window is displaying content")
  else if scenario.hasDocument = false then
    some (.documentUnavailable "Unable to get document from browser")
  else if scenario.hasCanvas = false then
    some (.documentUnavailable ("Unable to get " ++
      (Canvas.forMode scenario.standardsMode).title ++ " canvas from document"))
  else none

theorem Scenario.missing?_eq_none_iff {scenario : Scenario} :
    scenario.missing? = none ↔ scenario.hasWindow = true ∧ scenario.hasDocument = true ∧
      scenario.hasCanvas = true := by
  unfold missing?
  cases scenario.hasWindow <;> cases scenario.hasDocument <;> cases scenario.hasCanvas <;> simp

namespace SimulatedBrowser

variable {scenario : Scenario}

/-- The survey of a simulated browser. -/
theorem results_findTarget (browser : SimulatedBrowser) :
    (findTarget host).results browser = (.ok (browser.scenario.missing?.elim
      (.ok ⟨frameWindow, contentWindow, Canvas.forMode browser.scenario.standardsMode⟩) .error),
      browser) := by
  have htopLevel : usable (some frameWindow) = some frameWindow := rfl
  have hcontent : usable (some contentWindow) = some contentWindow := rfl
  have hnone : usable none = none := rfl
  unfold findTarget Scenario.missing?
  simp only [host, Action.bind_results, Action.results_inspect]
  cases hwindow : browser.scenario.hasWindow
  · simp [hnone]
  cases hdocument : browser.scenario.hasDocument
  · simp [htopLevel, hcontent, hdocument, Action.bind_results]
  cases hcanvas : browser.scenario.hasCanvas <;>
    simp [htopLevel, hcontent, hdocument, hcanvas, Action.bind_results]

/-- Requests agree when their attempts do. Assumes: the browsers that go together are in scenarios
that lack the same things and have the document in the same mode, and attempts begin alike where
nothing is missing. -/
theorem agree_request {A : Alignment SimulatedBrowser SimulatedBrowser} {otherScenario : Scenario}
    (hmissing : otherScenario.missing? = scenario.missing?)
    (hmode : otherScenario.standardsMode = scenario.standardsMode)
    (hruns : ∀ one other, A.holds one other →
      one.scenario = scenario ∧ other.scenario = otherScenario)
    {options : CaptureOptions} (hoptions : A.Expects options.Allowed)
    (hattempts : ∀ canvas, scenario.missing? = none →
      A.Attempts host host ⟨frameWindow, contentWindow, canvas⟩) :
    A.Agree (fun _ ↦ True) (takeScreenshot host options) (takeScreenshot host options) := by
  refine Alignment.agree_takeScreenshot hoptions fun one other hholds ↦ ?_
  obtain ⟨hone, hother⟩ := hruns one other hholds
  rw [results_findTarget, results_findTarget, hone, hother, hmissing, hmode]
  refine ⟨rfl, hholds, fun target htarget ↦ ?_⟩
  cases hlacks : scenario.missing? with
  | some error =>
    rw [hlacks] at htarget
    cases htarget
  | none =>
    rw [hlacks] at htarget
    cases htarget
    exact hattempts _ hlacks

/-! ### The attempts -/

/-- What the attempts of a request come to is answered with a response. -/
def Answers (response : Response) : Except Response Bitmap → Prop
  | .error given => given = response
  | .ok image => respond image = .ok response

section Attempts

variable {options : CaptureOptions} {scene next : Scene} {canvas : Canvas} {size : Size}
  {drawn : Option PaintOutcome × List PaintOutcome} {response : Response}

/-- An attempt with others behind it: what it has drawn is the answer, and where it has drawn
nothing theirs is. -/
theorem captureFrom_succ_gives {attempts : Nat}
    (honce : Action.Gives (Shows scenario scene)
      (captureOnce host options ⟨frameWindow, contentWindow, canvas⟩) fun reply last ↦
        ∃ image? rest, reply = replyFor image? ∧ Draws size drawn image? rest ∧
          Shows scenario next last)
    (hrest : Action.Gives (Shows scenario next)
      (captureFrom host options ⟨frameWindow, contentWindow, canvas⟩ attempts) fun ended _ ↦
        Answers response ended) :
    Action.Gives (Shows scenario scene)
      (captureFrom host options ⟨frameWindow, contentWindow, canvas⟩ (attempts + 1)) fun ended _ ↦
        Answers (drawn.1.elim response fun outcome ↦ answer (outcome.picture size)) ended := by
  intro browser hshows
  obtain ⟨reply, last, hends, image?, rest, rfl, hdraws, hlast⟩ := honce browser hshows
  cases hshown : drawn.1 with
  | some outcome =>
    obtain ⟨image, rfl, hrespond⟩ := hdraws.some outcome hshown
    exact ⟨_, last, results_captureFrom_of_image hends, hrespond⟩
  | none =>
    obtain rfl := hdraws.none hshown
    obtain ⟨ended, final, hafter, hanswers⟩ := hrest last hlast
    exact ⟨ended, final, (results_captureFrom_of_error rfl hends).trans hafter, hanswers⟩

/-- A request in a scenario that is ready comes to the answer of its attempts. -/
theorem takeScreenshot_gives_of_attempts (hready : scenario.Ready)
    (hattempts : ∀ canvas, Action.Gives (Shows scenario scene)
      (captureFrom host options ⟨frameWindow, contentWindow, canvas⟩ captureAttempts) fun ended _ ↦
        Answers response ended) :
    Action.Gives (Shows scenario scene) (takeScreenshot host options) fun given _ ↦
      given = response := by
  intro browser hshows
  have hfound : (findTarget host).results browser =
      (.ok (.ok ⟨frameWindow, contentWindow, Canvas.forMode scenario.standardsMode⟩), browser) := by
    obtain rfl := hshows.runs
    rw [results_findTarget, Scenario.missing?_eq_none_iff.mpr
      ⟨hready.hasWindow, hready.hasDocument, hready.hasCanvas⟩]
    rfl
  rw [results_takeScreenshot_of_target hfound]
  obtain ⟨ended, last, hends, hanswers⟩ :=
    hattempts (Canvas.forMode scenario.standardsMode) browser hshows
  cases ended with
  | error response => exact ⟨response, last, results_answerFrom_of_response hends, hanswers⟩
  | ok image =>
    rw [results_answerFrom_of_image hends, hanswers]
    exact ⟨_, last, rfl, rfl⟩

end Attempts

section Request

variable {options : CaptureOptions} (hregular : scenario.Regular) (hallowed : options.Allowed)
  (hready : scenario.Ready)

include hregular hallowed hready

/-- The attempts of a request come to the answer of the scene that they begin with. -/
theorem captureFrom_gives (canvas : Canvas) (attempts : Nat) {scene : Scene}
    (hopens : Opens scenario scene) :
    Action.Gives (Shows scenario scene)
      (captureFrom host options ⟨frameWindow, contentWindow, canvas⟩ attempts) fun ended _ ↦
        Answers (scene.answered scenario options attempts) ended := by
  induction attempts generalizing scene with
  | zero =>
    rw [Scene.answered]
    exact fun browser _ ↦ ⟨.error (.success ""), browser, rfl, rfl⟩
  | succ attempts ih =>
    rw [Scene.answered]
    exact captureFrom_succ_gives (captureOnce_gives hregular hallowed hopens hready canvas)
      (ih (hopens.next hregular hallowed))

/-- A request comes to the answer of the scene that it begins with. -/
theorem takeScreenshot_gives {scene : Scene} (hopens : Opens scenario scene) :
    Action.Gives (Shows scenario scene) (takeScreenshot host options) fun response _ ↦
      response = scene.answered scenario options captureAttempts :=
  takeScreenshot_gives_of_attempts hready fun canvas ↦
    captureFrom_gives hregular hallowed hready canvas captureAttempts hopens

end Request

end SimulatedBrowser

/-! ### The beginning -/

/-- The scene that a scenario begins with. -/
def Scenario.opened (scenario : Scenario) : Scene where
  frame := scenario.window
  laidOut := scenario.view
  pending := 0
  maximized := scenario.maximized
  paint := scenario.paint

theorem Scenario.opens_opened (scenario : Scenario) :
    SimulatedBrowser.Opens scenario scenario.opened :=
  ⟨rfl, rfl, fun _ ↦ ⟨rfl, rfl⟩, Int.le_refl _, Int.le_refl _⟩

/-- The browser that a scenario begins with. -/
def Scenario.started (scenario : Scenario) : SimulatedBrowser where
  scenario := scenario
  frame := scenario.window
  maximized := scenario.maximized
  maximizedFrame := scenario.window
  restoredFrame := scenario.restoredWindow.getD scenario.window
  laidOutViewport := scenario.view
  paint := scenario.paint

theorem Scenario.Roomy.start_eq {scenario : Scenario} (hroomy : scenario.Roomy) :
    SimulatedBrowser.start scenario = .ok scenario.started := by
  rw [SimulatedBrowser.start, hroomy.window.viewportOf hroomy.chrome]
  rfl

theorem Scenario.Roomy.shows_opened {scenario : Scenario} (hroomy : scenario.Roomy) :
    SimulatedBrowser.Shows scenario scenario.opened scenario.started where
  runs := rfl
  frame := rfl
  laidOutViewport := rfl
  pendingRecalculations := rfl
  maximized := rfl
  paint := rfl
  maximizedFrame := rfl
  restoredFrame := by
    unfold Scenario.started
    cases hsize : scenario.restoredWindow with
    | none => exact hroomy.window.toNonnegative
    | some size => exact hroomy.restoredWindow size hsize
  nonnegative := hroomy.window.toNonnegative
  laidOut := hroomy.window.less hroomy.chrome

/-- A request for a screenshot of a scenario comes to what it comes to in the scene at the start. -/
theorem Scenario.Roomy.simulateScreenshot_eq {scenario : Scenario} {options : CaptureOptions}
    {response : Response} (hroomy : scenario.Roomy)
    (hgives : Action.Gives (SimulatedBrowser.Shows scenario scenario.opened)
      (takeScreenshot SimulatedBrowser.host options) fun given _ ↦ given = response) :
    simulateScreenshot options scenario = .ok response := by
  obtain ⟨given, last, hends, rfl⟩ := hgives scenario.started hroomy.shows_opened
  rw [simulateScreenshot, hroomy.start_eq]
  exact congrArg Prod.fst hends

/-- The answer to a request for a screenshot of a scenario. -/
theorem simulateScreenshot_eq {scenario : Scenario} {options : CaptureOptions}
    (hregular : scenario.Regular) (hallowed : options.Allowed) (hready : scenario.Ready) :
    simulateScreenshot options scenario =
      .ok (scenario.opened.answered scenario options captureAttempts) :=
  hregular.roomy.simulateScreenshot_eq
    (SimulatedBrowser.takeScreenshot_gives hregular hallowed hready scenario.opens_opened)

/-! ### Scenarios that are not ready -/

/-- The answer to a request in a scenario that is not ready: an error where something is missing,
and an empty success where sizes cannot be had. -/
def Scenario.refusal (scenario : Scenario) : Response :=
  scenario.missing?.elim (.success "") fun error ↦ .error error.status error.message

/-- A browser that has no size for its windows makes every attempt fail. -/
theorem SimulatedBrowser.results_captureFrom_of_sizeless {browser : SimulatedBrowser}
    (hfails : browser.scenario.windowSizeFails = true) (options : CaptureOptions) (canvas : Canvas)
    (attempts : Nat) :
    (captureFrom host options ⟨frameWindow, contentWindow, canvas⟩ attempts).results browser =
      (.ok (.error (.success "")), browser) := by
  have hsize : (host.windowSize frameWindow).results browser =
      (.ok (.error (.call "GetWindowRect" "simulated failure")), browser) := by
    change (windowSize frameWindow).results browser = _
    rw [windowSize, onWindow, if_pos (.inl rfl), Action.bind_results, Action.results_inspect]
    simp [hfails]
  have hbegin : (ResizeSession.begin host.toWindowSystem frameWindow).results browser =
      (.ok (.error (.call "GetWindowRect" "simulated failure")), browser) := by
    rw [ResizeSession.begin, Action.bind_results, hsize]
    rfl
  have honce : (captureOnce host options ⟨frameWindow, contentWindow, canvas⟩).results browser =
      (.ok (.error (.ofHostError (.call "GetWindowRect" "simulated failure"))), browser) := by
    rw [captureOnce, Action.bind_results, hbegin]
    rfl
  induction attempts with
  | zero => rfl
  | succ attempts ih => rw [results_captureFrom_of_error rfl honce, ih]

/-- A scenario that is not ready is refused. -/
theorem simulateScreenshot_of_unready {scenario : Scenario} (hregular : scenario.Regular)
    (hunready : ¬ scenario.Ready) (options : CaptureOptions) :
    simulateScreenshot options scenario = .ok scenario.refusal := by
  rw [simulateScreenshot, hregular.roomy.start_eq]
  have hsurvey := SimulatedBrowser.results_findTarget scenario.started
  unfold Scenario.refusal
  rw [show scenario.started.scenario = scenario from rfl] at hsurvey
  cases hmissing : scenario.missing? with
  | some error =>
    rw [hmissing] at hsurvey
    exact congrArg Prod.fst (results_takeScreenshot_of_error hsurvey)
  | none =>
    rw [hmissing] at hsurvey
    obtain ⟨hwindow, hdocument, hcanvas⟩ := Scenario.missing?_eq_none_iff.mp hmissing
    have hfails : scenario.windowSizeFails = true := by
      cases hsizes : scenario.windowSizeFails with
      | true => rfl
      | false => exact absurd ⟨hwindow, hdocument, hcanvas, hsizes⟩ hunready
    have hattempts := SimulatedBrowser.results_captureFrom_of_sizeless
      (show scenario.started.scenario.windowSizeFails = true from hfails) options
      (Canvas.forMode scenario.standardsMode) captureAttempts
    exact congrArg Prod.fst ((results_takeScreenshot_of_target hsurvey).trans
      (results_answerFrom_of_response hattempts))

end PageCapture
