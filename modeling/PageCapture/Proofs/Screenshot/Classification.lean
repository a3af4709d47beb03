import PageCapture.Proofs.Host.Tracking
import PageCapture.Proofs.Screenshot.Answer
import PageCapture.Proofs.Viewport.Axis
import PageCapture.Proofs.Window.Restoration

/-!
# Classification of requests

Which requests fail, and what becomes of those that do not. A request is an error exactly when the
survey of the surface finds a window, the document or its canvas missing. Everything else that a
host may do costs an attempt at most: `captureOnce_degradable` says that an attempt which does not
end with an overflow ends with a drawable bitmap or with an error that is not fatal, and such a
bitmap always has an answer.

`Cycles` says what a request does behind its survey: it makes a second attempt exactly when the
first has given no bitmap, and its text is empty exactly when neither has.
`takeScreenshot_classified` puts the two together: which of the two errors a request is, and that it
is a success in every other case.
-/

set_option autoImplicit false
set_option relaxedAutoImplicit false

namespace PageCapture

variable {σ α β : Type}

/-! ### Parts of an attempt that cost it at most -/

/-- How a part of an attempt ends that costs the attempt at most: with an overflow, with an error
that is not fatal, or with a value of some kind. -/
inductive Degradable (good : α → Prop) : Except Fault (Except CaptureError α) → Prop
  | overflow (operation : Operation) : Degradable good (.error (.overflow operation))
  | degraded (message : String) : Degradable good (.ok (.error (.degraded message)))
  | value {value : α} (hvalue : good value) : Degradable good (.ok (.ok value))

/-- A part of an attempt that ends so from every state. -/
def Attempt.Degrades (good : α → Prop) (part : Attempt σ α) : Prop :=
  ∀ held, Degradable good (Action.results part.run held).1

theorem Attempt.degrades_pure {good : α → Prop} {value : α} (hvalue : good value) :
    (pure value : Attempt σ α).Degrades good :=
  fun _ ↦ .value hvalue

theorem Attempt.Degrades.bind {good : α → Prop} {better : β → Prop} {part : Attempt σ α}
    {next : α → Attempt σ β} (hfirst : part.Degrades good)
    (hnext : ∀ value, good value → (next value).Degrades better) :
    (part >>= next).Degrades better := by
  intro held
  have hends := hfirst held
  rw [Attempt.results_bind]
  generalize Action.results part.run held = ends at hends
  rcases ends with ⟨ended, last⟩
  cases hends with
  | overflow operation => exact .overflow operation
  | degraded message => exact .degraded message
  | value hvalue => exact hnext _ hvalue last

theorem Attempt.degrades_check {computed : Except Fault α} (honly : OnlyOverflows computed) :
    (Attempt.check computed : Attempt σ α).Degrades fun _ ↦ True := by
  intro held
  rw [Attempt.results_check]
  cases computed with
  | error fault =>
    obtain ⟨operation, rfl⟩ := honly fault rfl
    exact .overflow operation
  | ok value => exact .value trivial

/-- An action that gives a value of some kind from every state of the host. -/
theorem Attempt.degrades_asking {good : α → Prop} {action : Action σ α}
    (hgives : Action.Gives (fun _ ↦ True) action fun value _ ↦ good value) :
    (Attempt.act (Held.asking action)).Degrades good := by
  intro held
  obtain ⟨value, last, hends, hvalue⟩ := hgives held.host trivial
  rw [Attempt.results_act, Attempt.results_asking, hends]
  exact .value hvalue

/-- Whatever error a host replies with is not fatal. -/
theorem Attempt.degrades_ask {action : Action σ (Except HostError α)} (hanswers : action.Answers) :
    (Attempt.ask action).Degrades fun _ ↦ True := by
  intro held
  obtain ⟨reply, last, hends⟩ := hanswers held.host
  rw [Attempt.results_ask, hends]
  cases reply with
  | error error => exact .degraded error.message
  | ok value => exact .value trivial

/-! ### Attempts -/

/-- Drawing leaves the shape of a bitmap as it is. -/
def Host.KeepsShape (host : Host σ) : Prop :=
  ∀ handle bitmap,
    Action.Ends (fun _ ↦ True) (host.print handle bitmap) fun ended _ ↦
      ∀ reply printed, ended = .ok (reply, printed) → printed.SameShape bitmap

section Responsive

variable {host : Host σ} (hhost : host.Responsive)

include hhost

theorem resize_answers (handle : WindowHandle) (size : Size) :
    (resize host.toWindowSystem handle size).Answers := by
  intro state
  obtain ⟨granted, middle, hset⟩ := hhost.setWindowSize handle size state
  obtain ⟨read, last, hread⟩ := hhost.windowSize handle middle
  unfold resize
  rw [Action.bind_results, hset]
  cases granted with
  | error error => exact ⟨false, middle, rfl⟩
  | ok _ =>
    simp only
    rw [Action.bind_results, hread]
    cases read <;> exact ⟨_, last, rfl⟩

theorem ResizeSession.close_answers (session : ResizeSession) :
    (session.close host.toWindowSystem).Answers := by
  intro state
  unfold ResizeSession.close restoreWindow
  split
  · split
    · exact hhost.maximize session.handle state
    · obtain ⟨observed, last, hends⟩ := resize_answers hhost session.handle session.initial state
      exact ⟨(), last, by rw [Action.bind_results, hends]; rfl⟩
  · exact ⟨(), state, rfl⟩

theorem growTo_degrades (needed : Bool) (size : Size) :
    (growTo host.toWindowSystem needed size).Degrades fun _ ↦ True := by
  cases needed with
  | false => exact Attempt.degrades_pure trivial
  | true =>
    intro held
    have hleave : ∃ between,
        (Held.leaveMaximized host.toWindowSystem).results held = (.ok (), between) := by
      obtain ⟨_, last, hshow⟩ := hhost.showRestored held.session.handle held.host
      unfold Held.leaveMaximized
      rw [Action.bind_results]
      simp only [Held.current, Action.results_inspect]
      split
      · exact ⟨_, by rw [Action.bind_results, Attempt.results_asking, hshow]; rfl⟩
      · exact ⟨held, rfl⟩
    obtain ⟨between, hbetween⟩ := hleave
    obtain ⟨observed, last, hresize⟩ :=
      resize_answers hhost between.session.handle size between.host
    rw [results_growTo_true (Held.results_resizeTo hbetween hresize)]
    exact .value trivial

theorem settleClientSize_degrades (canvas : Canvas) (initial : Size)
    (resizedWidth resizedHeight : Bool) :
    (settleClientSize host.toDisplayedDocument canvas initial resizedWidth resizedHeight).Degrades
      fun _ ↦ True := by
  have hsettle : ∀ attempts force client, (settleFrom host.toDisplayedDocument canvas initial
      resizedWidth resizedHeight attempts force client).Degrades fun _ ↦ True := by
    intro attempts
    induction attempts with
    | zero => exact fun _ _ ↦ Attempt.degrades_pure trivial
    | succ attempts ih =>
      intro force client
      refine (Attempt.degrades_ask (hhost.metrics canvas)).bind fun metrics _ ↦ ?_
      dsimp only
      split
      · exact Attempt.degrades_pure trivial
      · have hforce : Action.Gives (fun _ ↦ True) (host.forceRecalculate force)
            fun _ _ ↦ True := by
          intro state _
          obtain ⟨reply, last, hends⟩ := hhost.forceRecalculate force state
          exact ⟨reply, last, hends, trivial⟩
        exact (Attempt.degrades_asking hforce).bind fun _ _ ↦ ih true metrics.client
  unfold settleClientSize
  split
  · exact Attempt.degrades_pure trivial
  · exact hsettle _ _ _

theorem resolveViewport_degrades (options : CaptureOptions) (canvas : Canvas) (view : Size) :
    (resolveViewport host.toWindowSystem host.toDisplayedDocument options canvas view).Degrades
      fun _ ↦ True := by
  have hmetrics := Attempt.degrades_ask (hhost.metrics canvas)
  have hplan : ∀ input limit retention,
      (Attempt.check (planAxis input limit retention) : Attempt σ AxisPlan).Degrades fun _ ↦ True :=
    fun input limit retention ↦
      Attempt.degrades_check (planAxis_onlyOverflows input limit retention)
  have hcurrent : (Attempt.act Held.current : Attempt σ ResizeSession).Degrades fun _ ↦ True :=
    fun _ ↦ .value trivial
  refine hcurrent.bind fun session _ ↦ hmetrics.bind fun initial _ ↦ ?_
  refine (hplan _ _ _).bind fun width _ ↦ (growTo_degrades hhost _ _).bind fun _ _ ↦ ?_
  refine hmetrics.bind fun afterWidth _ ↦ (hplan _ _ _).bind fun height _ ↦ ?_
  refine (growTo_degrades hhost _ _).bind fun _ _ ↦ ?_
  exact (settleClientSize_degrades hhost _ _ _ _).bind fun settled _ ↦ Attempt.degrades_pure trivial

variable (hshape : host.KeepsShape)

include hshape

/-- Drawing a view ends with a drawable bitmap or without one, but not with a fault. -/
theorem drawView_gives (handle : WindowHandle) (size sample : Size) :
    Action.Gives (fun _ ↦ True) (drawView host.toWindowSystem handle size sample)
      fun image? _ ↦ ∀ image, image? = some image → image.Drawable := by
  have hredraw : Action.Gives (fun _ ↦ True) (host.redraw handle) fun _ _ ↦ True := by
    intro state _
    obtain ⟨reply, last, hends⟩ := hhost.redraw handle state
    exact ⟨reply, last, hends, trivial⟩
  have hdraw : ∀ attempts drawn bitmap, bitmap.Drawable →
      Action.Gives (fun _ ↦ True)
        (drawFrom host.toWindowSystem handle sample attempts drawn bitmap)
        fun image? _ ↦ ∀ image, image? = some image → image.Drawable := by
    intro attempts
    induction attempts with
    | zero =>
      intro drawn bitmap hbitmap state _
      refine ⟨_, state, rfl, fun image himage ↦ ?_⟩
      cases drawn with
      | false => cases himage
      | true => exact Option.some.inj himage ▸ hbitmap
    | succ attempts ih =>
      intro drawn bitmap hbitmap
      have hprint : Action.Gives (fun _ ↦ True) (host.print handle bitmap)
          fun reply _ ↦ reply.2.Drawable := by
        intro state _
        obtain ⟨⟨reply, printed⟩, last, hends⟩ := hhost.print handle bitmap state
        have hsame := hshape handle bitmap state trivial
        rw [hends] at hsame
        exact ⟨_, last, hends, hbitmap.of_sameShape (hsame reply _ rfl)⟩
      refine hprint.bind fun reply state hstate ↦ ?_
      rcases reply with ⟨error | _, printed⟩
      · exact (hredraw.bind fun _ ↦ ih drawn printed hstate) state trivial
      · obtain ⟨value, hholds⟩ := hstate.readable.exists_holds
        obtain ⟨uniform, huniform, -⟩ := hstate.isUniform hholds sample
        have hcheck : Action.Gives (fun _ ↦ True)
            (Action.check (printed.isUniform sample) : Action σ Bool) fun found _ ↦
              found = uniform :=
          fun state _ ↦ ⟨uniform, state, by rw [Action.results_check, huniform], rfl⟩
        refine (hcheck.bind fun found last hfound ↦ ?_) state trivial
        cases found with
        | true => exact (hredraw.bind fun _ ↦ ih true printed hstate) last trivial
        | false =>
          refine ⟨some printed, last, rfl, fun image himage ↦ ?_⟩
          exact Option.some.inj himage ▸ hstate
  have hformat : Action.Gives (fun _ ↦ True) host.pixelFormat fun _ _ ↦ True := by
    intro state _
    obtain ⟨format, last, hends⟩ := hhost.pixelFormat state
    exact ⟨format, last, hends, trivial⟩
  refine hformat.bind fun format ↦ ?_
  cases hblank : Bitmap.blank? size.width size.height format with
  | none => exact fun state _ ↦ ⟨none, state, rfl, fun _ himage ↦ by cases himage⟩
  | some bitmap => exact hdraw drawAttempts false bitmap (Bitmap.drawable_of_blank? hblank)

/-- Whatever happens while an attempt holds its session costs the attempt at most. -/
theorem captureHeld_degrades (options : CaptureOptions) (target : CaptureTarget) :
    (captureHeld host options target).Degrades Bitmap.Drawable := by
  have hsubtract : ∀ a b, (Attempt.check (Checked.subtract a b) : Attempt σ Int32).Degrades
      fun _ ↦ True := fun a b ↦ Attempt.degrades_check (Checked.length_onlyOverflows _ _)
  refine (Attempt.degrades_ask (hhost.windowSize target.content)).bind fun view _ ↦ ?_
  refine (resolveViewport_degrades hhost options target.canvas view).bind fun resolved _ ↦ ?_
  refine (hsubtract _ _).bind fun width _ ↦ (hsubtract _ _).bind fun height _ ↦ ?_
  refine (Attempt.degrades_asking (drawView_gives hhost hshape _ _ _)).bind fun image himage ↦ ?_
  cases image with
  | none => exact fun _ ↦ .degraded _
  | some image => exact Attempt.degrades_pure (himage image rfl)

/-- An attempt that meets no overflow ends with a drawable bitmap or with an error that is not
fatal, whatever the host replies. -/
theorem captureOnce_degradable (options : CaptureOptions) (target : CaptureTarget) (state : σ) :
    Degradable Bitmap.Drawable ((captureOnce host options target).results state).1 := by
  obtain ⟨read, middle, hread⟩ := hhost.windowSize target.topLevel state
  unfold captureOnce ResizeSession.begin
  rw [Action.bind_results, Action.bind_results, hread]
  cases read with
  | error error => exact .degraded error.message
  | ok initial =>
    obtain ⟨maximized, begun, hasked⟩ := hhost.isMaximized target.topLevel middle
    simp only
    rw [Action.bind_results, hasked]
    simp only [Action.results_pure]
    have hheld := captureHeld_degrades hhost hshape options target
      ⟨⟨target.topLevel, initial, maximized, false, false⟩, begun⟩
    rcases hends : Action.results (captureHeld host options target).run
      ⟨⟨target.topLevel, initial, maximized, false, false⟩, begun⟩ with ⟨ended, held⟩
    obtain ⟨_, last, hclose⟩ := ResizeSession.close_answers hhost held.session held.host
    rw [ResizeSession.results_during hends hclose]
    rwa [hends] at hheld

end Responsive

/-! ### The survey of the surface -/

/-- The replies to all questions about the surface, asked one after the other. -/
structure Survey where
  topLevel? : Option WindowHandle
  content? : Option WindowHandle
  hasDocument : Bool
  standards : Bool
  /-- Whether the document has the canvas of its mode. -/
  hasCanvas : Bool

namespace Survey

/-- A handle that is absent or names no window. -/
def Missing (handle? : Option WindowHandle) : Prop :=
  handle? = none ∨ ∃ handle, handle? = some handle ∧ handle.isNull = true

/-- The frame or the content has no window. -/
def WindowMissing (survey : Survey) : Prop := Missing survey.topLevel? ∨ Missing survey.content?

/-- There is no document, or it has no canvas for its mode. -/
def DocumentMissing (survey : Survey) : Prop :=
  survey.hasDocument = false ∨ survey.hasCanvas = false

end Survey

/-- Asks all questions about the surface. -/
def Host.survey (host : Host σ) : Action σ Survey := do
  let topLevel? ← host.topLevelWindow
  let content? ← host.contentWindow
  let hasDocument ← host.hasDocument
  let standards ← host.isStandardsMode
  return {
    topLevel?, content?, hasDocument, standards
    hasCanvas := ← host.hasElement (Canvas.forMode standards) }

theorem usable_eq_none_iff {handle? : Option WindowHandle} :
    usable handle? = none ↔ Survey.Missing handle? := by
  cases handle? with
  | none => exact iff_of_true rfl (.inl rfl)
  | some handle => simp [usable, Survey.Missing]

/-- The search for the target fails as the survey says, and gives a target otherwise. -/
theorem findTarget_survey {host : Host σ} (hhost : host.Responsive) (start : σ) :
    ∃ survey last, host.survey.results start = (.ok survey, last) ∧
      ((survey.WindowMissing ∧ ∃ message middle, (findTarget host).results start =
          (.ok (.error (.windowUnavailable message)), middle)) ∨
        (¬ survey.WindowMissing ∧ survey.DocumentMissing ∧ ∃ message middle,
          (findTarget host).results start =
            (.ok (.error (.documentUnavailable message)), middle)) ∨
        (¬ survey.WindowMissing ∧ ¬ survey.DocumentMissing ∧ ∃ target,
          (findTarget host).results start = (.ok (.ok target), last))) := by
  obtain ⟨topLevel?, second, htopLevel⟩ := hhost.topLevelWindow start
  obtain ⟨content?, third, hcontent⟩ := hhost.contentWindow second
  obtain ⟨documented, fourth, hdocument⟩ := hhost.hasDocument third
  obtain ⟨standards, fifth, hstandards⟩ := hhost.isStandardsMode fourth
  obtain ⟨present, last, hpresent⟩ := hhost.hasElement (Canvas.forMode standards) fifth
  refine ⟨⟨topLevel?, content?, documented, standards, present⟩, last, ?_, ?_⟩
  · unfold Host.survey
    rw [Action.bind_results, htopLevel]
    simp only
    rw [Action.bind_results, hcontent]
    simp only
    rw [Action.bind_results, hdocument]
    simp only
    rw [Action.bind_results, hstandards]
    simp only
    rw [Action.bind_results, hpresent]
    rfl
  · unfold findTarget
    rw [Action.bind_results, htopLevel]
    simp only
    rw [Action.bind_results, hcontent]
    simp only [Survey.WindowMissing, ← usable_eq_none_iff]
    rcases usable topLevel? with _ | topLevel
    · exact .inl ⟨.inl rfl, _, _, rfl⟩
    rcases usable content? with _ | content
    · exact .inl ⟨.inr rfl, _, _, rfl⟩
    refine .inr ?_
    simp only [reduceCtorEq, or_self, not_false_eq_true, true_and, Survey.DocumentMissing]
    rw [Action.bind_results, hdocument]
    cases documented with
    | false => exact .inl ⟨.inl rfl, _, _, rfl⟩
    | true =>
      simp only [if_true]
      rw [Action.bind_results, hstandards]
      simp only
      rw [Action.bind_results, hpresent]
      cases present with
      | false => exact .inl ⟨.inr rfl, _, _, rfl⟩
      | true => exact .inr ⟨by simp, _, rfl⟩

/-! ### Cycles -/

/-- What a request for a target does behind its survey: from a state it makes one or two attempts,
answers, and ends in the state that the last attempt leaves. -/
inductive Cycles (host : Host σ) (options : CaptureOptions) (target : CaptureTarget) (first : σ) :
    Response → σ → Prop
  /-- The first attempt gives an image. -/
  | once {image : Bitmap} {text : String} {last : σ}
      (hfirst : (captureOnce host options target).results first = (.ok (.ok image), last))
      (hanswer : respond image = .ok (.success text)) (htext : text ≠ "") :
    Cycles host options target first (.success text) last
  /-- The first attempt gives none, the second does. -/
  | twice {error : CaptureError} {image : Bitmap} {text : String} {middle last : σ}
      (hfirst : (captureOnce host options target).results first = (.ok (.error error), middle))
      (hsecond : (captureOnce host options target).results middle = (.ok (.ok image), last))
      (hanswer : respond image = .ok (.success text)) (htext : text ≠ "") :
    Cycles host options target first (.success text) last
  /-- Neither attempt gives an image. -/
  | inVain {error another : CaptureError} {middle last : σ}
      (hfirst : (captureOnce host options target).results first = (.ok (.error error), middle))
      (hsecond : (captureOnce host options target).results middle =
        (.ok (.error another), last)) :
    Cycles host options target first (.success "") last

/-- Behind its survey a request that meets no overflow goes through its cycles. -/
theorem answerFrom_cycles {host : Host σ} (hhost : host.Responsive) (hshape : host.KeepsShape)
    (options : CaptureOptions) (target : CaptureTarget) (first : σ)
    (hrange : ∀ operation,
      ((answerFrom host options target).results first).1 ≠ .error (.overflow operation)) :
    ∃ response last, (answerFrom host options target).results first = (.ok response, last) ∧
      Cycles host options target first response last := by
  have hattempt := captureOnce_degradable hhost hshape options target
  have hends := hattempt first
  rcases hfirst : (captureOnce host options target).results first with ⟨ended, middle⟩
  rw [hfirst] at hends
  cases hends with
  | overflow operation =>
    have hfault := results_answerFrom_of_fault (results_captureFrom_of_fault hfirst)
    exact absurd (congrArg Prod.fst hfault) (hrange operation)
  | value himage =>
    obtain ⟨text, hanswer, htext⟩ := himage.exists_respond
    refine ⟨.success text, middle, ?_, .once hfirst hanswer htext⟩
    rw [results_answerFrom_of_image (results_captureFrom_of_image hfirst), hanswer]
  | degraded message =>
    have hagain : (captureFrom host options target captureAttempts).results first =
        (captureFrom host options target 1).results middle :=
      results_captureFrom_of_error rfl hfirst
    have hends := hattempt middle
    rcases hsecond : (captureOnce host options target).results middle with ⟨ended, last⟩
    rw [hsecond] at hends
    cases hends with
    | overflow operation =>
      have hfault := results_answerFrom_of_fault
        (hagain.trans (results_captureFrom_of_fault hsecond))
      exact absurd (congrArg Prod.fst hfault) (hrange operation)
    | value himage =>
      obtain ⟨text, hanswer, htext⟩ := himage.exists_respond
      refine ⟨.success text, last, ?_, .twice hfirst hsecond hanswer htext⟩
      rw [results_answerFrom_of_image (hagain.trans (results_captureFrom_of_image hsecond)),
        hanswer]
    | degraded another =>
      refine ⟨.success "", last, ?_, .inVain hfirst hsecond⟩
      exact results_answerFrom_of_response
        (hagain.trans (results_captureFrom_of_error rfl hsecond))

/-- How a request ends. Assumes: a host that answers every call, with whatever reply, and whose
drawings leave the shape of the bitmap as it is; and no overflow. The request fails with the one
status exactly when a window is missing, with the other exactly when the windows are there and the
document or its canvas is missing, and has then asked nothing but about the surface. It is a success
exactly when none of them is missing, whatever else the host refuses, and then goes through its
cycles. -/
theorem takeScreenshot_classified {host : Host σ} (hhost : host.Responsive)
    (hshape : host.KeepsShape) (options : CaptureOptions) (start : σ)
    (hrange : ∀ operation,
      ((takeScreenshot host options).results start).1 ≠ .error (.overflow operation)) :
    ∃ survey surveyed response last,
      host.survey.results start = (.ok survey, surveyed) ∧
      (takeScreenshot host options).results start = (.ok response, last) ∧
      (response.status = .noSuchWindow ↔ survey.WindowMissing) ∧
      (¬ survey.WindowMissing → (response.status = .unknownError ↔ survey.DocumentMissing)) ∧
      (response.isSuccess = true ↔ ¬ survey.WindowMissing ∧ ¬ survey.DocumentMissing) ∧
      (response.isSuccess = false →
        ∀ exchange ∈ ((takeScreenshot host.transcribed options).results ⟨start, []⟩).2.exchanges,
          exchange.isSurvey = true) ∧
      (response.isSuccess = true →
        ∃ target, (findTarget host).results start = (.ok (.ok target), surveyed) ∧
          Cycles host options target surveyed response last) := by
  obtain ⟨survey, surveyed, hsurvey, hfound⟩ := findTarget_survey hhost start
  refine ⟨survey, surveyed, ?_⟩
  -- A request that fails has made the exchanges of the search for the target and no other.
  have hasked : ∀ error middle, (findTarget host).results start = (.ok (.error error), middle) →
      ∀ exchange ∈ ((takeScreenshot host.transcribed options).results ⟨start, []⟩).2.exchanges,
        exchange.isSurvey = true := by
    intro error middle herror
    have htracks := findTarget_tracks host.transcribed_tracks ⟨start, []⟩
    rw [herror] at htracks
    obtain ⟨since, hsince, hall⟩ := findTarget_only hhost ⟨start, []⟩
    rcases hends : (findTarget host.transcribed).results ⟨start, []⟩ with ⟨ended, asked⟩
    rw [hends] at htracks hsince
    simp only [List.nil_append] at hsince
    have hended : ended = .ok (.error error) := (congrArg Prod.fst htracks).symm
    rw [hended] at hends
    rw [results_takeScreenshot_of_error hends]
    intro exchange hexchange
    exact hall exchange (hsince ▸ hexchange)
  rcases hfound with ⟨hmissing, message, middle, hfound⟩ |
    ⟨hpresent, hmissing, message, middle, hfound⟩ | ⟨hpresent, hdocument, target, hfound⟩
  · refine ⟨_, middle, hsurvey, results_takeScreenshot_of_error hfound, iff_of_true rfl hmissing,
      fun hpresent ↦ absurd hmissing hpresent, iff_of_false Bool.false_ne_true
      fun hthere ↦ hthere.1 hmissing, fun _ ↦ hasked _ _ hfound, fun hsuccess ↦ ?_⟩
    cases hsuccess
  · refine ⟨_, middle, hsurvey, results_takeScreenshot_of_error hfound,
      iff_of_false (fun hstatus ↦ ?_) hpresent, fun _ ↦ iff_of_true rfl hmissing,
      iff_of_false Bool.false_ne_true fun hthere ↦ hthere.2 hmissing,
      fun _ ↦ hasked _ _ hfound, fun hsuccess ↦ ?_⟩
    · cases hstatus
    · cases hsuccess
  · rw [results_takeScreenshot_of_target hfound] at hrange ⊢
    obtain ⟨response, last, hanswer, hcycles⟩ :=
      answerFrom_cycles hhost hshape options target surveyed hrange
    have hstatus : response.status = .success ∧ response.isSuccess = true := by
      cases hcycles <;> exact ⟨rfl, rfl⟩
    refine ⟨response, last, hsurvey, hanswer, iff_of_false ?_ hpresent,
      fun _ ↦ iff_of_false ?_ hdocument, iff_of_true hstatus.2 ⟨hpresent, hdocument⟩,
      fun herror ↦ ?_, fun _ ↦ ⟨target, hfound, hcycles⟩⟩
    · rw [hstatus.1]
      exact nofun
    · rw [hstatus.1]
      exact nofun
    · rw [hstatus.2] at herror
      cases herror

/-- The classification of a request to a host that shows a page longer than its window: it is
answered with the picture of its first attempt. -/
theorem takeScreenshot_classified_longPage :
    ∃ survey surveyed response last,
      Host.longPage.survey.results () = (.ok survey, surveyed) ∧
      (takeScreenshot Host.longPage {}).results () = (.ok response, last) ∧
      (response.status = .noSuchWindow ↔ survey.WindowMissing) ∧
      (¬ survey.WindowMissing → (response.status = .unknownError ↔ survey.DocumentMissing)) ∧
      (response.isSuccess = true ↔ ¬ survey.WindowMissing ∧ ¬ survey.DocumentMissing) ∧
      (response.isSuccess = false →
        ∀ exchange ∈
          ((takeScreenshot Host.longPage.transcribed {}).results ⟨(), []⟩).2.exchanges,
          exchange.isSurvey = true) ∧
      (response.isSuccess = true →
        ∃ target, (findTarget Host.longPage).results () = (.ok (.ok target), surveyed) ∧
          Cycles Host.longPage {} target surveyed response last) := by
  have hshape : Host.longPage.KeepsShape := by
    intro handle bitmap state _ reply printed hends
    cases hends
    exact .refl bitmap
  have hfound : (findTarget Host.longPage).results () =
      (.ok (.ok ⟨⟨1⟩, ⟨2⟩, .documentElement⟩), ()) := rfl
  have hpicture : ((captureOnce Host.longPage {} ⟨⟨1⟩, ⟨2⟩, .documentElement⟩).results
      ()).1.toOption.bind Except.toOption = Bitmap.blank? 7 4 .bgra := by decide +kernel
  obtain ⟨blank, hblank⟩ := Bitmap.exists_blank? .bgra (by decide : 1 ≤ (7 : Int32).toInt)
    (by decide : 1 ≤ (4 : Int32).toInt) (by decide)
  obtain ⟨text, hanswer, -⟩ := (Bitmap.drawable_of_blank? hblank).exists_respond
  have hrequest : (takeScreenshot Host.longPage {}).results () = (.ok (.success text), ()) := by
    rw [results_takeScreenshot_of_target hfound]
    rcases hattempt : (captureOnce Host.longPage {} ⟨⟨1⟩, ⟨2⟩, .documentElement⟩).results () with
      ⟨fault | error | image, last⟩
    all_goals
      rw [hattempt, hblank] at hpicture
      cases hpicture
    rw [results_answerFrom_of_image (results_captureFrom_of_image hattempt), hanswer]
  refine takeScreenshot_classified Host.longPage_responsive hshape {} () fun operation hfault ↦ ?_
  rw [hrequest] at hfault
  cases hfault

end PageCapture
