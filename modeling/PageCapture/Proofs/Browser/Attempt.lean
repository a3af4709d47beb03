import PageCapture.Proofs.Browser.Resolution
import PageCapture.Proofs.Browser.View

/-!
# Attempts on a simulated browser

An attempt on a simulated browser resolves the viewport, draws the view and puts the window back.
`captureOnce_gives` says what it comes to when it begins with a scene that `Opens`: it replies with
what the drawing of the view gives (`Scene.outcome`) and leaves `Scene.next`.

That scene opens the next attempt (`Opens.next`). The frame is the old one and so is the maximized
state, but putting the frame back is a resize like any other, and a layout that lags shows the
planned viewport until it is recalculated: the next attempt begins with the client area that this
one has arrived at (`Opens.client_next`).
-/

set_option autoImplicit false
set_option relaxedAutoImplicit false

namespace PageCapture

/-! ### Scenes of an attempt -/

/-- The sample that is checked when the layout shows a client area. -/
def CaptureOptions.sample (options : CaptureOptions) (client : Size) : Size :=
  ⟨client.width - options.sampleInset, client.height - options.sampleInset⟩

/-- A scene once the window has been put back, if it was resized. -/
def Scene.closed (scenario : Scenario) (grew : Bool) (scene : Scene) : Scene :=
  if grew then { scene with maximized := scenario.maximized }.moved scenario scenario.window
  else scene

namespace Scene

variable (scenario : Scenario) (options : CaptureOptions) (scene : Scene)

/-- What the drawing of an attempt comes to. -/
def outcome : Option PaintOutcome × List PaintOutcome :=
  (scene.resolved scenario options).1.drawn (options.sample (scene.client scenario)) scene.paint

/-- The scene that an attempt leaves. -/
def next : Scene :=
  { (scene.resolved scenario options).2 with paint := (scene.outcome scenario options).2 }.closed
    scenario (scenario.grows options (scene.client scenario))

end Scene

theorem Scene.next_paint (scenario : Scenario) (options : CaptureOptions) (scene : Scene) :
    (scene.next scenario options).paint = (scene.outcome scenario options).2 := by
  unfold Scene.next Scene.closed
  split
  · rw [Scene.moved_paint]
  · rfl

/-- What an attempt replies, once the view has been drawn. -/
def replyFor : Option Bitmap → Except CaptureError Bitmap
  | none => .error (.degraded "no image could be captured")
  | some image => .ok image

namespace SimulatedBrowser

variable {scenario : Scenario}

/-! ### Putting the window back -/

/-- Closing a session puts the window back. Assumes: the frame is not cut to less than it began
with. -/
theorem close_yields (hgrants : Grants scenario)
    (hroom : cut scenario.maxWindow scenario.window = scenario.window) {grew : Bool} {scene : Scene}
    (hmaximized : grew = true → scene.maximized = false) :
    Action.Yields (Shows scenario scene)
      (((opening scenario).grown grew).close host.toWindowSystem) ()
      (Shows scenario (scene.closed scenario grew)) := by
  cases grew with
  | false =>
    exact fun browser hshows ↦ ⟨browser, ResizeSession.results_close_of_untouched rfl _, hshows⟩
  | true =>
    rw [ResizeSession.close_of_mutated (by simp [ResizeSession.isMutated, ResizeSession.grown])]
    unfold restoreWindow
    simp only [ResizeSession.grown, opening, if_true, Scene.closed]
    cases hwas : scenario.maximized with
    | true => exact maximize_yields hgrants
    | false =>
      have hsame : { scene with maximized := false } = scene := by
        rw [← hmaximized rfl]
      have hresize := resize_yields hgrants hgrants.window (hmaximized rfl)
      rw [hroom] at hresize
      rw [hsame]
      exact hresize.bind Action.yields_pure

/-! ### An attempt -/

section Resolved

variable {options : CaptureOptions} {scene after : Scene} {resolved : ResolvedViewport}
  {grew : Bool} (hgrants : Grants scenario) (hallowed : options.Allowed)
  (hframe : scene.frame = scenario.window)
  (hclient : resolved.initialClient.Nonnegative) (canvas : Canvas)
  (hresolve : Attempt.Yields (Attempt.Within (opening scenario) (Shows scenario scene))
    (resolveViewport host.toWindowSystem host.toDisplayedDocument options canvas scenario.view)
    resolved
    (Attempt.Within ((opening scenario).grown grew) (Shows scenario after)))

include hgrants hallowed hframe hclient hresolve

/-- What an attempt does under its session, given what the resolution arrives at and what the
drawing of the view comes to. -/
theorem captureHeld_gives {drawn : Option Bitmap → SimulatedBrowser → Prop}
    (hdraw : Action.Gives (Shows scenario after)
      (drawView host.toWindowSystem contentWindow resolved.dimensions.client
        (options.sample resolved.initialClient)) drawn) :
    Action.Gives (Attempt.Within (opening scenario) (Shows scenario scene))
      (captureHeld host options ⟨frameWindow, contentWindow, canvas⟩).run fun reply held ↦
        held.session = (opening scenario).grown grew ∧
          ∃ image?, reply = replyFor image? ∧ drawn image? held.host := by
  have hview : Attempt.Yields (Attempt.Within (opening scenario) (Shows scenario scene))
      (Attempt.ask (host.windowSize contentWindow)) scenario.view
      (Attempt.Within (opening scenario) (Shows scenario scene)) := by
    refine Attempt.yields_ask ?_
    rw [Scenario.view, ← hframe]
    exact windowSize_content_yields hgrants
  have hwidth : Checked.subtract resolved.initialClient.width options.sampleInset =
      .ok (options.sample resolved.initialClient).width :=
    Checked.subtract_of_nonneg hclient.width hallowed.sampleInset
  have hheight : Checked.subtract resolved.initialClient.height options.sampleInset =
      .ok (options.sample resolved.initialClient).height :=
    Checked.subtract_of_nonneg hclient.height hallowed.sampleInset
  unfold captureHeld
  refine hview.bind_gives ?_
  refine hresolve.bind_gives ?_
  refine (Attempt.yields_check hwidth).bind_gives ?_
  refine (Attempt.yields_check hheight).bind_gives ?_
  rintro ⟨session, browser⟩ ⟨hsession, hshows⟩
  obtain ⟨image?, last, hends, hdrawn⟩ := hdraw browser hshows
  refine ⟨replyFor image?, ⟨session, last⟩, ?_, hsession, image?, rfl, hdrawn⟩
  rw [Attempt.results_bind, Attempt.results_act, Attempt.results_asking]
  simp only
  rw [hends]
  cases image? <;> rfl

/-- An attempt replies with what the drawing of its view comes to, and puts the window back. -/
theorem captureOnce_gives_of_resolved (hmaximized : scene.maximized = scenario.maximized)
    (hroom : cut scenario.maxWindow scenario.window = scenario.window)
    (hleft : grew = true → after.maximized = false) {size : Size}
    (hsize : resolved.dimensions.client = size)
    (hdrawable : 1 ≤ size.width.toInt ∧ 1 ≤ size.height.toInt) :
    Action.Gives (Shows scenario scene)
      (captureOnce host options ⟨frameWindow, contentWindow, canvas⟩) fun reply last ↦
        ∃ image? rest, reply = replyFor image? ∧
          Draws size (size.drawn (options.sample resolved.initialClient) after.paint) image? rest ∧
          Shows scenario (({ after with paint := rest } : Scene).closed scenario grew) last := by
  subst hsize
  have hbegin : Action.Yields (Shows scenario scene)
      (ResizeSession.begin host.toWindowSystem frameWindow) (.ok (opening scenario))
      (Shows scenario scene) := by
    refine (windowSize_frame_yields hgrants).bind ?_
    intro browser hshows
    refine ⟨browser, ?_, hshows⟩
    simp only [opening, ← hframe, ← hmaximized, ← hshows.maximized]
    rfl
  have hdraw : Action.Gives (Shows scenario after) _ _ :=
    drawView_draws hdrawable.1 hdrawable.2 (options.sample resolved.initialClient)
  refine hbegin.bind_gives ?_
  intro browser hshows
  obtain ⟨reply, held, hends, hsession, image?, rfl, rest, hdrawn, hheld⟩ :=
    captureHeld_gives hgrants hallowed hframe hclient canvas hresolve hdraw
      ⟨opening scenario, browser⟩ ⟨rfl, hshows⟩
  obtain ⟨last, hclose, hlast⟩ :=
    @close_yields _ hgrants hroom grew { after with paint := rest } hleft held.host hheld
  rw [← hsession] at hclose
  exact ⟨_, last, ResizeSession.results_during hends hclose, image?, rest, rfl, hdrawn, hlast⟩

end Resolved

section Opening

variable {options : CaptureOptions} {scene : Scene} (hregular : scenario.Regular)
  (hallowed : options.Allowed) (hopens : Opens scenario scene) (hready : scenario.Ready)

include hregular hallowed hopens hready

/-- An attempt replies with what the drawing of its view comes to. -/
theorem captureOnce_gives (canvas : Canvas) :
    Action.Gives (Shows scenario scene)
      (captureOnce host options ⟨frameWindow, contentWindow, canvas⟩) fun reply last ↦
        ∃ image? rest, reply = replyFor image? ∧
          Draws (scene.resolved scenario options).1 (scene.outcome scenario options) image? rest ∧
          Shows scenario (scene.next scenario options) last := by
  have hobeys := hregular.obeys hready
  have hclient : (scene.client scenario).Nonnegative := by
    obtain ⟨hwide, hhigh⟩ := hopens.one_le_client hregular
    exact ⟨by omega, by omega⟩
  have honce := captureOnce_gives_of_resolved hobeys.toGrants hallowed hopens.frame hclient canvas
    (resolveViewport_yields hregular hallowed hopens hready canvas) hopens.maximized
    (hobeys.cut_eq _) (Scene.resolved_maximized scenario) rfl
    (hopens.one_le_resolved hregular hallowed)
  rw [(scene.resolved_keeps scenario options).2.2] at honce
  refine honce.mono fun reply last ⟨image?, rest, hreply, hdrawn, hshows⟩ ↦ ?_
  refine ⟨image?, rest, hreply, hdrawn, ?_⟩
  rwa [hdrawn.rest] at hshows

omit hready in
/-- Putting the frame back is a resize: it takes the layout along at once or later. -/
theorem Opens.next_eq (hgrows : scenario.grows options (scene.client scenario) = true) :
    scene.next scenario options =
      if scenario.layoutLag = 0 then
        { frame := scenario.window
          laidOut := scenario.view
          pending := 0
          maximized := scenario.maximized
          paint := (scene.outcome scenario options).2 }
      else
        { frame := scenario.window
          laidOut := (scene.resolved scenario options).2.laidOut
          pending := scenario.layoutLag.toNat
          maximized := scenario.maximized
          paint := (scene.outcome scenario options).2 } := by
  have hmoves : (scene.resolved scenario options).2.frame ≠ scenario.window := by
    rw [(scene.resolved_keeps scenario options).1, hgrows, Scene.grown, if_pos rfl,
      Scene.moved_frame]
    exact (window_ne_targetFrame hregular hallowed hgrows).symm
  rw [Scene.next, hgrows, Scene.closed, if_pos rfl, Scene.moved, if_neg hmoves]
  split
  · rename_i hnone
    rw [hopens.resolved_of_prompt hregular hallowed hgrows (by rw [hnone]; decide)]
    rfl
  · rfl

omit hready in
/-- The scene that an attempt leaves opens the next one. -/
theorem Opens.next : Opens scenario (scene.next scenario options) := by
  cases hgrows : scenario.grows options (scene.client scenario) with
  | false =>
    rw [Scene.next, hgrows, resolved_of_still hgrows]
    exact { hopens with }
  | true =>
    rw [hopens.next_eq hregular hallowed hgrows]
    split
    · exact ⟨rfl, rfl, fun _ ↦ ⟨rfl, rfl⟩, Int.le_refl _, Int.le_refl _⟩
    · rename_i hsome
      obtain ⟨hwide, hhigh⟩ := hregular.view_le_targetView (scene.client scenario) hallowed
      refine ⟨rfl, rfl, fun hnone ↦ absurd hnone hsome, ?_, ?_⟩
      · rcases hopens.resolved_laidOut hregular hallowed with hold | hnew
        · exact hold ▸ hopens.width
        · exact hnew ▸ hwide
      · rcases hopens.resolved_laidOut hregular hallowed with hold | hnew
        · exact hold ▸ hopens.height
        · exact hnew ▸ hhigh

omit hready in
/-- With a lag of at most one recalculation, the next attempt begins with the client area of the old
frame where the layout follows at once, and with the one that this attempt arrived at where it
does not. -/
theorem Opens.client_next (hlag : scenario.layoutLag ≤ 1) :
    (scene.next scenario options).client scenario =
      if scenario.layoutLag = 0 then scenario.client else (scene.resolved scenario options).1 := by
  split
  · rename_i hnone
    rw [Scene.client, ((hopens.next hregular hallowed).synced hnone).1, Scenario.client]
  · rename_i hsome
    cases hgrows : scenario.grows options (scene.client scenario) with
    | false =>
      rw [Scene.next, hgrows, resolved_of_still hgrows]
      rfl
    | true =>
      rw [hopens.next_eq hregular hallowed hgrows, if_neg hsome, Scene.client,
        hopens.resolved_of_prompt hregular hallowed hgrows hlag, Scenario.targetClient]

end Opening

end SimulatedBrowser

end PageCapture
