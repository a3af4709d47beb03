import PageCapture.Proofs.Browser.Repetition

/-!
# Maximized windows

A maximized window is captured like the same window that is not maximized. The two runs do not pass
through the same states. A maximized window takes its restored frame first, whatever that is, on its
way to every size, and goes back by being maximized again; that counts as a resize where the other
window keeps still, and where the layout lags it starts the count of pending recalculations once
more.

`Twins` are two such browsers: they show the same frame and the same layout, but not the same count.
The difference shows as soon as the layout is recalculated, unless the layout is the one of the
frame anyway (`Scene.Even`). A request recalculates only behind a resize. Between two attempts,
then, the counts may differ only where the layout is the one of the frame, and where they do not,
leaving the maximized state must not start the count: it has just been started, or the restored
frame is the frame itself (`Resting`). Each call keeps the two that way (`agree_twins`,
`agree_resizeTo_twins`), and so does closing the session (`closes_twins`): it has made the frame
that it leaves the restored one.

`simulateScreenshot_maximized` is the result.
-/

set_option autoImplicit false
set_option relaxedAutoImplicit false

namespace PageCapture

variable {α : Type}

/-- The scenario with a window that is maximized or not, and with another frame that it is restored
to. -/
def Scenario.posed (scenario : Scenario) (maximized : Bool) (restored? : Option Size) : Scenario :=
  { scenario with maximized, restoredWindow := restored? }

/-! ### Scenes -/

namespace Scene

variable (scenario : Scenario) {scene : Scene} {frame : Size} {pending : Nat}

/-- The count of pending recalculations once the frame has been given a size. -/
def countAt (frame : Size) (scene : Scene) (pending : Nat) : Nat :=
  if scene.frame = frame ∨ scenario.layoutLag = 0 then pending else scenario.layoutLag.toNat

/-- Scenes that differ in their counts and in whether they are maximized move alike. -/
theorem moved_with (frame : Size) (scene : Scene) (maximized : Bool) (pending : Nat) :
    ({ scene with maximized, pending } : Scene).moved scenario frame =
      { scene.moved scenario frame with
        maximized, pending := scene.countAt scenario frame pending } := by
  unfold moved countAt
  by_cases hstill : scene.frame = frame
  · simp [hstill]
  · by_cases hlag : scenario.layoutLag = 0 <;> simp [hstill, hlag]

theorem moved_pending (frame : Size) (scene : Scene) :
    (scene.moved scenario frame).pending = scene.countAt scenario frame scene.pending := by
  unfold moved countAt
  by_cases hstill : scene.frame = frame
  · simp [hstill]
  · by_cases hlag : scenario.layoutLag = 0 <;> simp [hstill, hlag]

/-- Where the layout is the one of the frame it does not matter how many recalculations are pending,
and where it is not the counts are the same. -/
def Even (scene : Scene) (pending : Nat) : Prop :=
  scene.laidOut = scene.frame.less scenario.chrome ∨ pending = scene.pending

/-- Behind a restored frame, too: where the layout is not the one of the frame, leaving the
maximized state starts a count that has just been started, or none. -/
def Poised (scene : Scene) (pending : Nat) (restored : Size) : Prop :=
  scene.laidOut = scene.frame.less scenario.chrome ∨
    pending = scene.pending ∧ (pending = scenario.layoutLag.toNat ∨ restored = scene.frame)

theorem Poised.even {restored : Size} (hpoised : scene.Poised scenario pending restored) :
    scene.Even scenario pending :=
  hpoised.imp_right And.left

/-- A frame that moves takes the layout along, or starts the count whatever it was. -/
theorem moved_or_started (hmoves : scene.frame ≠ frame) :
    (scene.moved scenario frame).laidOut = frame.less scenario.chrome ∨
      ∀ pending, scene.countAt scenario frame pending = scenario.layoutLag.toNat := by
  by_cases hlag : scenario.layoutLag = 0
  · rw [moved, if_neg hmoves, if_pos hlag]
    exact .inl rfl
  · exact .inr fun _ ↦ if_neg (not_or.mpr ⟨hmoves, hlag⟩)

/-- Where the layout follows at once it stays the one of the frame. -/
theorem moved_prompt (hlag : scenario.layoutLag = 0)
    (hsame : scene.laidOut = scene.frame.less scenario.chrome) (frame : Size) :
    (scene.moved scenario frame).laidOut =
      (scene.moved scenario frame).frame.less scenario.chrome := by
  by_cases hstill : scene.frame = frame
  · rw [moved, if_pos hstill, hsame]
  · rw [moved, if_neg hstill, if_pos hlag]

theorem Even.moved (heven : scene.Even scenario pending) (frame : Size) :
    (scene.moved scenario frame).Even scenario (scene.countAt scenario frame pending) := by
  by_cases hstill : scene.frame = frame
  · rw [Scene.moved, if_pos hstill, countAt, if_pos (.inl hstill)]
    exact heven
  · unfold Even
    rw [moved_frame, moved_pending]
    exact (moved_or_started scenario hstill).imp_right fun hstarted ↦ by rw [hstarted, hstarted]

/-- A layout that is the one of the frame stays so. -/
theorem recalculated_of_same (hsame : scene.laidOut = scene.frame.less scenario.chrome) :
    scene.recalculated scenario = { scene with pending := scene.pending - 1 } := by
  obtain ⟨place, laidOut, count, maximized, paint⟩ := scene
  obtain rfl : laidOut = place.less scenario.chrome := hsame
  rcases count with _ | _ | count <;> rfl

theorem recalculated_with (scene : Scene) (maximized : Bool) :
    ({ scene with maximized } : Scene).recalculated scenario =
      { scene.recalculated scenario with maximized } := by
  obtain ⟨place, laidOut, count, was, paint⟩ := scene
  rcases count with _ | _ | count <;> rfl

/-- A recalculation does the same to both layouts. -/
theorem Even.recalculated (heven : scene.Even scenario pending) (maximized : Bool) :
    ∃ count, ({ scene with maximized, pending } : Scene).recalculated scenario =
        { scene.recalculated scenario with maximized, pending := count } ∧
      (scene.recalculated scenario).Even scenario count := by
  rcases heven with hsame | rfl
  · refine ⟨pending - 1, ?_, .inl ?_⟩
    · have hposed : ({ scene with maximized, pending } : Scene).laidOut =
          ({ scene with maximized, pending } : Scene).frame.less scenario.chrome := hsame
      rw [recalculated_of_same scenario hposed, recalculated_of_same scenario hsame]
    · rw [recalculated_of_same scenario hsame]
      exact hsame
  · exact ⟨_, recalculated_with scenario scene maximized, .inr rfl⟩

/-- A maximized window that has left that state and returns to its frame: the count has been started
unless the restored frame was the frame itself. -/
theorem left_moved_back
    (hprompt : scenario.layoutLag = 0 → scene.laidOut = scene.frame.less scenario.chrome)
    (restored : Size) (pending : Nat) :
    (({ scene with maximized := true, pending } : Scene).left scenario restored).moved scenario
        scene.frame =
      { scene with maximized := false, pending := scene.countAt scenario restored pending } := by
  rw [left, if_pos rfl]
  unfold moved countAt
  by_cases hstill : scene.frame = restored
  · simp [hstill]
  · by_cases hlag : scenario.layoutLag = 0
    · simp [hstill, hlag, Ne.symm hstill, hprompt hlag]
    · simp [hstill, hlag, Ne.symm hstill]

/-- A window that is resized, the other one of which may have to leave the maximized state
before. -/
theorem Even.resized (heven : scene.Even scenario pending) (frame : Size) :
    ∃ count, ({ scene with maximized := false, pending } : Scene).moved scenario frame =
        { scene.moved scenario frame with maximized := false, pending := count } ∧
      (scene.moved scenario frame).Even scenario count :=
  ⟨_, moved_with scenario frame scene false pending, heven.moved scenario frame⟩

theorem Poised.resized {restored : Size} (hpoised : scene.Poised scenario pending restored)
    (hprompt : scenario.layoutLag = 0 → scene.laidOut = scene.frame.less scenario.chrome)
    (frame : Size) :
    ∃ count,
      (({ scene with maximized := true, pending } : Scene).left scenario restored).moved scenario
        frame = { scene.moved scenario frame with maximized := false, pending := count } ∧
      (scene.moved scenario frame).Even scenario count := by
  by_cases hstill : scene.frame = frame
  · subst hstill
    refine ⟨scene.countAt scenario restored pending, ?_, ?_⟩
    · rw [left_moved_back scenario hprompt, Scene.moved, if_pos rfl]
    · rw [Scene.moved, if_pos rfl]
      rcases hpoised with hstill | ⟨hsame, hstarted⟩
      · exact .inl hstill
      refine .inr ?_
      rw [← hsame, countAt]
      split
      · rfl
      · rename_i hmoves
        exact (hstarted.resolve_right fun hback ↦ hmoves (.inl hback.symm)).symm
  · obtain ⟨count, hmoved, heven⟩ := hpoised.even.resized scenario frame
    refine ⟨count, ?_, heven⟩
    have hleaves : ({ scene with maximized := true, pending } : Scene).frame ≠ frame := hstill
    rw [left_moved scenario restored hleaves, grown, if_pos rfl]
    exact hmoved

/-- Windows that are put back: the frame that the first one leaves is its restored frame. -/
theorem Even.returned (heven : scene.Even scenario pending) (frame : Size) :
    (scene.moved scenario frame).Poised scenario (scene.countAt scenario frame pending)
      scene.frame := by
  by_cases hstill : scene.frame = frame
  · rw [Scene.moved, if_pos hstill, countAt, if_pos (.inl hstill)]
    exact heven.imp_right fun hsame ↦ ⟨hsame, .inr rfl⟩
  · unfold Poised
    rw [moved_frame, moved_pending]
    exact (moved_or_started scenario hstill).imp_right fun hstarted ↦
      ⟨by rw [hstarted, hstarted], .inl (hstarted pending)⟩

end Scene

namespace SimulatedBrowser

variable {scenario : Scenario} {restored? : Option Size} {scene : Scene} {maximized : Bool}
  {pending : Nat} {one other : SimulatedBrowser}

/-! ### Twins -/

/-- Two browsers, the first of which is in the scenario with a maximized window, and the other in
the one with a window that is not. They show the same, but for the count of recalculations. -/
structure Twins (scenario : Scenario) (restored? : Option Size) (scene : Scene) (maximized : Bool)
    (pending : Nat) (one other : SimulatedBrowser) : Prop where
  shows : Shows (scenario.posed true restored?) { scene with maximized, pending } one
  otherShows : Shows (scenario.posed false scenario.restoredWindow) scene other
  restored : scene.maximized = false
  prompt : scenario.layoutLag = 0 → scene.laidOut = scene.frame.less scenario.chrome

/-- Twins between two attempts. The window is where the scenario has put it. -/
structure Resting (scenario : Scenario) (scene : Scene) (pending : Nat) (one : SimulatedBrowser) :
    Prop where
  frame : scene.frame = scenario.window
  poised : scene.Poised scenario pending one.restoredFrame

def twinAlignment (scenario : Scenario) (restored? : Option Size) :
    Alignment SimulatedBrowser SimulatedBrowser where
  holds one other := ∃ scene pending, Twins scenario restored? scene true pending one other ∧
    Resting scenario scene pending one
  fallen _ _ := False
  lenient := False
  fallen_of_holds := nofun

/-- Twins under their sessions. The windows rest, or they have been resized. -/
def HeldTwins (scenario : Scenario) (restored? : Option Size)
    (one other : Held SimulatedBrowser) : Prop :=
  ∃ scene pending grew, one.session = (opening (scenario.posed true restored?)).grown grew ∧
    other.session = (opening (scenario.posed false scenario.restoredWindow)).grown grew ∧
    Twins scenario restored? scene (!grew) pending one.host other.host ∧
    if grew then scene.Even scenario pending else Resting scenario scene pending one.host

def heldTwinAlignment (scenario : Scenario) (restored? : Option Size) :
    Alignment (Held SimulatedBrowser) (Held SimulatedBrowser) where
  holds := HeldTwins scenario restored?
  fallen _ _ := False
  lenient := False
  fallen_of_holds := nofun

/-! ### The calls -/

/-- A call that leaves the windows alone, and whose value can be told from the frame, the layout and
the script. -/
theorem agree_twins {good : α → Prop} {action : Action SimulatedBrowser α}
    (hleaves : LeavesWindow action)
    (hyields : ∀ scene : Scene, scene.frame.Nonnegative → scene.laidOut.Nonnegative →
      ∃ value paint, good value ∧ ∀ posed restored? maximized pending,
        Action.Yields (Shows (scenario.posed posed restored?) { scene with maximized, pending })
          action value
          (Shows (scenario.posed posed restored?) { scene with maximized, pending, paint })) :
    (heldTwinAlignment scenario restored?).Agree good
      (Held.asking action) (Held.asking action) := by
  rintro one other ⟨scene, pending, grew, hsession, hsession', htwins, hwindow⟩
  obtain ⟨value, paint, hgood, hcall⟩ :=
    hyields scene htwins.otherShows.nonnegative htwins.otherShows.laidOut
  obtain ⟨one', hone, hshows⟩ := hcall _ _ _ _ one.host htwins.shows
  obtain ⟨other', hother, hshows'⟩ := hcall _ _ _ _ other.host htwins.otherShows
  rw [Attempt.results_asking, Attempt.results_asking, hone, hother]
  refine ⟨rfl, ⟨{ scene with paint }, pending, grew, hsession, hsession',
    ⟨hshows, hshows', htwins.restored, htwins.prompt⟩, ?_⟩, hgood⟩
  cases grew with
  | true => exact hwindow
  | false =>
    have hstate := hleaves one.host
    rw [hone] at hstate
    have hrestored : one'.restoredFrame = one.host.restoredFrame :=
      congrArg WindowState.restoredFrame hstate
    exact ⟨hwindow.frame, by rw [hrestored]; exact hwindow.poised⟩

section Grants

variable (hgrants : Grants scenario)

include hgrants

theorem Grants.posed (maximized : Bool) (restored? : Option Size) :
    Grants (scenario.posed maximized restored?) :=
  ⟨hgrants.chrome, hgrants.clientInsets, hgrants.window, hgrants.limit, hgrants.hasCanvas,
    hgrants.windowSizeFails⟩

omit hgrants in
/-- The session of a scenario knows whether the window is maximized now. -/
theorem follows_opening {grew : Bool}
    (hmaximized : scene.maximized = (scenario.maximized && !grew)) :
    Follows ((opening scenario).grown grew) scene := by
  cases grew with
  | false => exact ⟨rfl, nofun, hmaximized⟩
  | true => exact ⟨rfl, id, hmaximized.trans (by simp [ResizeSession.grown])⟩

/-- Recalculations that are made behind a resize do the same to both layouts. -/
theorem agree_forceRecalculate_twins (force : Bool) :
    ((heldTwinAlignment scenario restored?).since true).Agree (fun _ ↦ True)
      (Held.asking (forceRecalculate force)) (Held.asking (forceRecalculate force)) := by
  rintro one other ⟨⟨scene, pending, grew, hsession, hsession', htwins, heven⟩, hresized⟩
  obtain rfl : grew = true := by
    cases grew with
    | true => rfl
    | false =>
      have hknows := hresized rfl
      rw [hsession] at hknows
      cases hknows
  obtain ⟨count, hsame, hlast⟩ := Scene.Even.recalculated scenario heven false
  obtain ⟨one', hone, hshows⟩ :=
    forceRecalculate_yields (hgrants.posed true restored?) force one.host htwins.shows
  obtain ⟨other', hother, hshows'⟩ := forceRecalculate_yields
    (hgrants.posed false scenario.restoredWindow) force other.host htwins.otherShows
  have hseen : Shows (scenario.posed true restored?)
      { scene.recalculated scenario with maximized := false, pending := count } one' :=
    hsame ▸ hshows
  rw [Attempt.results_asking, Attempt.results_asking, hone, hother]
  refine ⟨rfl, ⟨⟨_, count, true, hsession, hsession', ⟨hseen, hshows', ?_, fun hlag ↦ ?_⟩, hlast⟩,
    hresized⟩, trivial⟩
  · exact (scene.recalculated_maximized scenario).trans htwins.restored
  · rw [Scene.recalculated_of_same scenario (htwins.prompt hlag)]
    exact htwins.prompt hlag

/-- Twins are resized alike. -/
theorem agree_resizeTo_twins {frame : Size} (hframe : frame.Nonnegative) :
    (heldTwinAlignment scenario restored?).Agree (fun _ ↦ True)
      (Held.resizeTo host.toWindowSystem frame) (Held.resizeTo host.toWindowSystem frame) := by
  rintro one other ⟨scene, pending, grew, hsession, hsession', htwins, hwindow⟩
  have hfollows : Follows one.session { scene with maximized := !grew, pending } := by
    rw [hsession]
    exact follows_opening (Bool.true_and _).symm
  have hfollows' : Follows other.session scene := by
    rw [hsession']
    exact follows_opening (htwins.restored.trans (Bool.false_and _).symm)
  obtain ⟨one', hends, ⟨hnow, hshows⟩, -, -⟩ :=
    resizeTo_gives (hgrants.posed true restored?) hfollows hframe ⟨rfl, htwins.shows⟩
  obtain ⟨other', hends', ⟨hnow', hshows'⟩, -, -⟩ := resizeTo_gives
    (hgrants.posed false scenario.restoredWindow) hfollows' hframe ⟨rfl, htwins.otherShows⟩
  obtain ⟨count, hsame, heven⟩ : ∃ count,
      (({ scene with maximized := !grew, pending } : Scene).left scenario
          one.host.restoredFrame).moved scenario (cut scenario.maxWindow frame) =
        { scene.moved scenario (cut scenario.maxWindow frame) with
          maximized := false, pending := count } ∧
      (scene.moved scenario (cut scenario.maxWindow frame)).Even scenario count := by
    cases grew with
    | false => exact hwindow.poised.resized scenario htwins.prompt _
    | true => exact Scene.Even.resized scenario hwindow _
  have hseen : Shows (scenario.posed true restored?)
      { scene.moved scenario (cut scenario.maxWindow frame) with
        maximized := false, pending := count } one'.host := hsame ▸ hshows
  rw [Scene.left, if_neg (by rw [htwins.restored]; exact Bool.false_ne_true)] at hshows'
  rw [hends, hends']
  refine ⟨rfl, ⟨_, count, true, ?_, ?_, ⟨hseen, hshows', ?_, fun hlag ↦ ?_⟩, heven⟩, trivial⟩
  · rw [hnow, hsession, ResizeSession.grown_grown, Bool.or_true]
  · rw [hnow', hsession', ResizeSession.grown_grown, Bool.or_true]
  · exact (Scene.moved_maximized scenario _ scene).trans htwins.restored
  · exact Scene.moved_prompt scenario hlag (htwins.prompt hlag) _

/-- The calls under a session keep twins. -/
theorem under_twins (hwindow : scenario.window.Roomy) (canvas : Canvas) :
    (heldTwinAlignment scenario restored?).Under host host
      ⟨frameWindow, contentWindow, canvas⟩ where
  initial := by
    rintro one other ⟨scene, pending, grew, hsession, hsession', -⟩
    rw [hsession, hsession']
    cases grew <;> exact ⟨rfl, .inr hwindow⟩
  view := agree_twins (observes_windowSize _).leavesWindow fun scene hframe _ ↦
    ⟨_, scene.paint, fun size hsize ↦ .inr (Except.ok.inj hsize ▸ hframe.less hgrants.chrome),
      fun posed restored? _ _ ↦ windowSize_content_yields (hgrants.posed posed restored?)⟩
  metrics := agree_twins observes_metrics.leavesWindow fun scene _ hlaidOut ↦
    ⟨.ok ⟨scene.client scenario, scenario.scroll (scene.client scenario)⟩, scene.paint,
      fun metrics hmetrics ↦ .inr (Except.ok.inj hmetrics ▸ hlaidOut.less hgrants.clientInsets),
      fun posed restored? _ _ ↦ metrics_yields (hgrants.posed posed restored?)⟩
  forceRecalculate := agree_forceRecalculate_twins hgrants
  pixelFormat := agree_twins (leavesWindow_of_still fun _ ↦ rfl) fun scene _ _ ↦
    ⟨_, scene.paint, trivial, fun _ _ _ _ ↦ Action.yields_pure⟩
  print bitmap hbitmap := by
    have hdrawable := hbitmap.resolve_left id
    refine agree_twins (observes_print _ bitmap).leavesWindow fun scene _ _ ↦ ?_
    obtain ⟨reply, hprint, hdrawn⟩ := exists_reply hdrawable (scene.paint.headD .painted)
    refine ⟨reply, scene.paint.tail, .inr ?_, fun _ _ _ _ ↦ hprint _ _ rfl⟩
    rcases hdrawn with ⟨-, hstill, -⟩ | ⟨-, -, hpictures⟩
    · exact hstill ▸ hdrawable
    · exact hdrawable.of_sameShape hpictures.shape
  redraw := agree_twins (observes_note fun _ ↦ rfl).leavesWindow fun scene _ _ ↦
    ⟨(), scene.paint, trivial, fun _ _ _ _ ↦
      note_yields fun log ↦ { log with redraws := log.redraws + 1 }⟩
  resizeTo _ hsize := agree_resizeTo_twins hgrants (hsize.resolve_left id)

/-! ### Attempts -/

/-- Closing the sessions keeps twins, with their windows at rest. -/
theorem closes_twins (hroom : cut scenario.maxWindow scenario.window = scenario.window) :
    (twinAlignment scenario restored?).Closes (heldTwinAlignment scenario restored?) host host where
  holds := by
    rintro one other ⟨scene, pending, grew, hsession, hsession', htwins, hwindow⟩
    rw [hsession, hsession']
    cases grew with
    | false =>
      rw [ResizeSession.results_close_of_untouched rfl,
        ResizeSession.results_close_of_untouched rfl]
      exact ⟨rfl, ⟨scene, pending, htwins, hwindow⟩, trivial⟩
    | true =>
      have hclose := @close_yields _ (hgrants.posed true restored?) hroom true
        { scene with maximized := false, pending } fun _ ↦ rfl
      have hclose' := @close_yields _ (hgrants.posed false scenario.restoredWindow) hroom true scene
        fun _ ↦ htwins.restored
      obtain ⟨one', hone, hshows⟩ := hclose one.host htwins.shows
      obtain ⟨other', hother, hshows'⟩ := hclose' other.host htwins.otherShows
      have hleft := @close_leaves (scenario.posed true restored?) one.host htwins.shows.maximized
      rw [hone] at hleft
      have hrestored : one'.restoredFrame = scene.frame :=
        (congrArg WindowState.restoredFrame hleft).trans htwins.shows.frame
      have hseen : Shows (scenario.posed true restored?)
          (({ scene with maximized := true, pending } : Scene).moved scenario scenario.window)
          one' :=
        hshows
      have hseen' : Shows (scenario.posed false scenario.restoredWindow)
          (({ scene with maximized := false } : Scene).moved scenario scenario.window) other' :=
        hshows'
      have hsame : ({ scene with maximized := false } : Scene) = scene := by rw [← htwins.restored]
      rw [Scene.moved_with] at hseen
      rw [hsame] at hseen'
      rw [hone, hother]
      refine ⟨rfl, ⟨_, _, ⟨hseen, hseen', ?_, fun hlag ↦ ?_⟩, Scene.moved_frame _ _ _, ?_⟩, trivial⟩
      · exact (Scene.moved_maximized scenario _ scene).trans htwins.restored
      · exact Scene.moved_prompt scenario hlag (htwins.prompt hlag) _
      · rw [hrestored]
        exact Scene.Even.returned scenario hwindow _
  fallen _ _ := id

end Grants

/-- Attempts on twins begin alike. -/
theorem attempts_twins (hroomy : scenario.Roomy) (hcanvas : scenario.hasCanvas = true)
    (canvas : Canvas) :
    (twinAlignment scenario restored?).Attempts host host ⟨frameWindow, contentWindow, canvas⟩ := by
  rintro one other ⟨scene, pending, htwins, hrests⟩
  have hbegin := results_begin_frame one
  have hbegin' := results_begin_frame other
  rw [htwins.shows.runs, htwins.shows.frame, htwins.shows.maximized] at hbegin
  rw [htwins.otherShows.runs, htwins.otherShows.frame, htwins.otherShows.maximized,
    htwins.restored] at hbegin'
  have hposed : ∀ maximized restored?,
      (scenario.posed maximized restored?).windowSizeFails = scenario.windowSizeFails :=
    fun _ _ ↦ rfl
  rw [hposed] at hbegin hbegin'
  cases hsizes : scenario.windowSizeFails with
  | true =>
    rw [hsizes] at hbegin hbegin'
    exact .refused hbegin hbegin' ⟨scene, pending, htwins, hrests⟩
  | false =>
    rw [hsizes, hrests.frame] at hbegin hbegin'
    have hgrants := hroomy.grants hcanvas hsizes
    exact .begun (heldTwinAlignment scenario restored?) hbegin hbegin'
      ⟨scene, pending, false, rfl, rfl, htwins, hrests⟩ Iff.rfl
      (under_twins hgrants hroomy.window canvas) (closes_twins hgrants (cut_of_le hroomy.maxWindow))

/-- Twins are captured alike. -/
theorem agree_takeScreenshot_twins (hroomy : scenario.Roomy) {options : CaptureOptions}
    (hallowed : options.Allowed) :
    (twinAlignment scenario restored?).Agree (fun _ ↦ True) (takeScreenshot host options)
      (takeScreenshot host options) := by
  have hmissing : (scenario.posed false scenario.restoredWindow).missing? =
      (scenario.posed true restored?).missing? := rfl
  refine agree_request hmissing rfl ?_ (.inr hallowed) fun canvas hmissing ↦
    attempts_twins hroomy (Scenario.missing?_eq_none_iff.mp hmissing).2.2 canvas
  rintro one other ⟨scene, pending, htwins, -⟩
  exact ⟨htwins.shows.runs, htwins.otherShows.runs⟩

end SimulatedBrowser

theorem Scenario.Roomy.posed {scenario : Scenario} (hroomy : scenario.Roomy) (maximized : Bool)
    {restored? : Option Size} (hrestored : ∀ size, restored? = some size → size.Nonnegative) :
    (scenario.posed maximized restored?).Roomy :=
  ⟨hroomy.window, hroomy.chrome, hroomy.clientInsets, hrestored, hroomy.maxWindow⟩

/-- Twins that have just been started are answered with the same response. -/
theorem simulateScreenshot_posed {scenario : Scenario} (hroomy : scenario.Roomy)
    {options : CaptureOptions} (hallowed : options.Allowed) {restored? : Option Size}
    (hrestored : ∀ size, restored? = some size → size.Nonnegative) :
    ∃ response, simulateScreenshot options (scenario.posed true restored?) = .ok response ∧
      simulateScreenshot options (scenario.posed false scenario.restoredWindow) = .ok response := by
  have hone := hroomy.posed true hrestored
  have hother := hroomy.posed false hroomy.restoredWindow
  have htwins : SimulatedBrowser.Twins scenario restored?
      (scenario.posed false scenario.restoredWindow).opened true 0
      (scenario.posed true restored?).started
      (scenario.posed false scenario.restoredWindow).started :=
    ⟨hone.shows_opened, hother.shows_opened, rfl, fun _ ↦ rfl⟩
  obtain ⟨hends, hleaves⟩ := SimulatedBrowser.agree_takeScreenshot_twins hroomy hallowed _ _
    ⟨_, 0, htwins, rfl, .inl rfl⟩
  rw [simulateScreenshot, hone.start_eq, simulateScreenshot, hother.start_eq]
  dsimp only
  rw [hends]
  rcases hfirst : (takeScreenshot SimulatedBrowser.host options).results
    (scenario.posed true restored?).started with ⟨fault | response, last⟩
  · rw [hfirst] at hleaves
    exact hleaves.elim
  · exact ⟨response, rfl, rfl⟩

/-- A maximized window is captured like the same window that is not maximized, whatever frame it
is restored to. Assumes: a configuration that is accepted, and sizes that leave room for every
growth. -/
theorem simulateScreenshot_maximized {config : Config} (hvalid : config.validate = .ok ())
    {scenario : Scenario} (hroomy : scenario.Roomy) :
    ∃ response,
      simulateScreenshot config.capture { scenario with maximized := false } = .ok response ∧
      ∀ restored? : Option Size, (∀ size, restored? = some size → size.Nonnegative) →
        simulateScreenshot config.capture
          { scenario with maximized := true, restoredWindow := restored? } = .ok response := by
  have hallowed := Config.allowed_of_validate hvalid
  have hnone : ∀ size, (none : Option Size) = some size → size.Nonnegative := nofun
  obtain ⟨response, -, hplain⟩ := simulateScreenshot_posed hroomy hallowed hnone
  refine ⟨response, hplain, fun restored? hrestored ↦ ?_⟩
  obtain ⟨same, hmaximized, hagain⟩ := simulateScreenshot_posed hroomy hallowed hrestored
  rw [hplain] at hagain
  cases hagain
  exact hmaximized

/-- The law for a window that may not grow in its width and whose layout lags. The first attempt
fails to draw, and the second begins while the layout is still to follow the first. -/
theorem simulateScreenshot_maximized_lagging :
    ∃ response,
      simulateScreenshot {}
        { window := ⟨4, 4⟩, chrome := ⟨0, 0⟩, clientInsets := ⟨1, 1⟩, content := ⟨9, 9⟩
          layoutLag := 2, maxWindow := some ⟨4, 6⟩
          paint := [.fail, .fail, .fail, .blank] } = .ok response ∧
      simulateScreenshot {}
        { window := ⟨4, 4⟩, chrome := ⟨0, 0⟩, clientInsets := ⟨1, 1⟩, content := ⟨9, 9⟩
          layoutLag := 2, maxWindow := some ⟨4, 6⟩, paint := [.fail, .fail, .fail, .blank]
          maximized := true, restoredWindow := some ⟨3, 7⟩ } = .ok response := by
  have hroomy : Scenario.Roomy
      { window := ⟨4, 4⟩, chrome := ⟨0, 0⟩, clientInsets := ⟨1, 1⟩, content := ⟨9, 9⟩
        layoutLag := 2, maxWindow := some ⟨4, 6⟩, paint := [.fail, .fail, .fail, .blank] } := by
    refine ⟨⟨⟨by decide, by decide⟩, by decide, by decide⟩, ⟨by decide, by decide⟩,
      ⟨by decide, by decide⟩, nofun, ?_⟩
    rintro limit hlimit
    cases hlimit
    exact ⟨by decide, by decide⟩
  have hvalid : ({} : Config).validate = .ok () := rfl
  obtain ⟨response, hplain, hmaximized⟩ := simulateScreenshot_maximized hvalid hroomy
  refine ⟨response, hplain, hmaximized (some ⟨3, 7⟩) fun size hsize ↦ ?_⟩
  cases hsize
  exact ⟨by decide, by decide⟩

end PageCapture
