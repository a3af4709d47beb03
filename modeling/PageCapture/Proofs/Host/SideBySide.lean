import PageCapture.Proofs.Action.Alignment
import PageCapture.Proofs.Screenshot.Answer
import PageCapture.Proofs.Viewport.Room
import PageCapture.Proofs.Window.Session

/-!
# Captures side by side

Two hosts that reply alike are captured alike. What a capture needs of an alignment is that the
calls it makes agree, one by one: `Alignment.Under` lists those of an attempt that holds its
session, where the resize of a frame counts as one call, and `Alignment.Surveys` the questions about
the surface. A layout is recalculated only behind a resize, so that call has to agree only where the
session knows of one (`Alignment.since`). How an attempt begins, with a session on either side, and
how the sessions are closed is `Alignment.Begins`. The agreement then goes through the whole of a
capture, up to `Alignment.agree_takeScreenshot`.

In front of an alignment that is not lenient this is freedom from faults as well. The lengths that
the hosts report have to leave room for that, and the plans of the two axes, the sample and the
offsets into the bitmap stay within range (`Alignment.agreeParts_resolveViewport`,
`Alignment.agree_drawFrom`).
-/

set_option autoImplicit false
set_option relaxedAutoImplicit false

namespace PageCapture

variable {σ τ α β : Type}

/-! ### What is asked of a host under a session -/

theorem Held.asking_bind (action : Action σ α) (next : α → Action σ β) :
    Held.asking (action >>= next) =
      Held.asking action >>= fun value ↦ Held.asking (next value) := by
  funext held
  change (Held.asking (action >>= next)).results held = Action.results (_ >>= _) held
  rw [Attempt.results_asking, Action.bind_results, Action.bind_results, Attempt.results_asking]
  rcases action.results held.host with ⟨_ | value, last⟩ <;> rfl

namespace Alignment

/-! ### The calls -/

/-- The states of an alignment in which the window has been resized under the session, if it was to
be. -/
def since (H : Alignment (Held τ) (Held σ)) (resized : Bool) : Alignment (Held τ) (Held σ) where
  holds one other := H.holds one other ∧ (resized = true → one.session.resized = true)
  fallen := H.fallen
  lenient := H.lenient
  fallen_of_holds hlenient one other hholds := H.fallen_of_holds hlenient one other hholds.1

/-- The calls of an attempt that holds a session agree. What the hosts report has room, and what
they draw stays drawable, unless faults are let pass. -/
structure Under (H : Alignment (Held τ) (Held σ)) (first : Host τ) (second : Host σ)
    (target : CaptureTarget) : Prop where
  initial : ∀ one other, H.holds one other →
    other.session.initial = one.session.initial ∧ H.Expects one.session.initial.Roomy
  view : H.Agree (fun reply ↦ ∀ size, reply = .ok size → H.Expects size.Nonnegative)
    (Held.asking (first.windowSize target.content)) (Held.asking (second.windowSize target.content))
  metrics : H.Agree (fun reply ↦ ∀ metrics, reply = .ok metrics →
      H.Expects metrics.client.Nonnegative)
    (Held.asking (first.metrics target.canvas)) (Held.asking (second.metrics target.canvas))
  forceRecalculate : ∀ force, (H.since true).Agree (fun _ ↦ True)
    (Held.asking (first.forceRecalculate force)) (Held.asking (second.forceRecalculate force))
  pixelFormat : H.Agree (fun _ ↦ True) (Held.asking first.pixelFormat)
    (Held.asking second.pixelFormat)
  print : ∀ bitmap, H.Expects bitmap.Drawable →
    H.Agree (fun reply ↦ H.Expects reply.2.Drawable)
      (Held.asking (first.print target.content bitmap))
      (Held.asking (second.print target.content bitmap))
  redraw : H.Agree (fun _ ↦ True) (Held.asking (first.redraw target.content))
    (Held.asking (second.redraw target.content))
  resizeTo : ∀ size, H.Expects size.Nonnegative → H.Agree (fun _ ↦ True)
    (Held.resizeTo first.toWindowSystem size) (Held.resizeTo second.toWindowSystem size)

/-- The questions about the surface agree. -/
structure Surveys (A : Alignment τ σ) (first : Host τ) (second : Host σ) : Prop where
  topLevelWindow : A.Agree (fun _ ↦ True) first.topLevelWindow second.topLevelWindow
  contentWindow : A.Agree (fun _ ↦ True) first.contentWindow second.contentWindow
  hasDocument : A.Agree (fun _ ↦ True) first.hasDocument second.hasDocument
  isStandardsMode : A.Agree (fun _ ↦ True) first.isStandardsMode second.isStandardsMode
  hasElement : ∀ canvas, A.Agree (fun _ ↦ True) (first.hasElement canvas) (second.hasElement canvas)

/-! ### Behind a resize -/

section Since

variable {H : Alignment (Held τ) (Held σ)} {good : α → Prop}

/-- What is asked of the host leaves the session as it is. -/
theorem Agree.since {first : Action τ α} {second : Action σ α}
    (hagree : H.Agree good (Held.asking first) (Held.asking second)) (resized : Bool) :
    (H.since resized).Agree good (Held.asking first) (Held.asking second) := by
  rintro one other ⟨hholds, hresized⟩
  obtain ⟨hends, hleaves⟩ := hagree one other hholds
  exact ⟨hends, hleaves.mono id fun hlast ↦ ⟨hlast, hresized⟩⟩

/-- At first it is not asked whether the window has been resized. -/
theorem AgreeParts.of_since {first : Attempt τ α} {second : Attempt σ α}
    (hagree : (H.since false).AgreeParts good first second) : H.AgreeParts good first second := by
  intro one other hholds
  obtain ⟨hends, hleaves⟩ := hagree one other ⟨hholds, nofun⟩
  exact ⟨hends, hleaves.mono id And.left⟩

end Since

/-! ### An attempt under its session -/

section Under

variable {H : Alignment (Held τ) (Held σ)} {first : Host τ} {second : Host σ}
  {target : CaptureTarget} (hunder : H.Under first second target)

include hunder

/-- Growing the frame agrees with what follows it, for which the window has been resized if the
frame was to be grown. -/
theorem AgreeParts.bind_growTo {good : α → Prop} (resized needed : Bool) {size : Size}
    (hsize : H.Expects size.Nonnegative) {firstNext : Unit → Attempt τ α}
    {secondNext : Unit → Attempt σ α}
    (hnext : (H.since (resized || needed)).AgreeParts good (firstNext ()) (secondNext ())) :
    (H.since resized).AgreeParts good (growTo first.toWindowSystem needed size >>= firstNext)
      (growTo second.toWindowSystem needed size >>= secondNext) := by
  cases needed with
  | false =>
    rw [Bool.or_false] at hnext
    exact hnext
  | true =>
    rw [Bool.or_true] at hnext
    rintro one other ⟨hholds, -⟩
    obtain ⟨hends, hleaves⟩ := hunder.resizeTo size hsize one other hholds
    rw [Attempt.results_bind, Attempt.results_bind]
    rcases hone : (Held.resizeTo first.toWindowSystem size).results one with ⟨ended, one'⟩
    rcases hother : (Held.resizeTo second.toWindowSystem size).results other with ⟨ended', other'⟩
    rw [hone, hother] at hends hleaves
    obtain rfl : ended' = ended := hends
    cases ended' with
    | error fault =>
      rw [results_growTo_of_fault hone, results_growTo_of_fault hother]
      exact ⟨rfl, hleaves⟩
    | ok observed =>
      obtain ⟨-, -, -, demaximized, hsession⟩ := Held.resizeTo_ends hone
      rw [results_growTo_true hone, results_growTo_true hother]
      obtain ⟨hends, hlast⟩ := hnext one' other' ⟨hleaves.1, fun _ ↦ by rw [hsession]⟩
      exact ⟨hends, hlast.mono id fun hholds ↦ ⟨hholds.1, fun _ ↦ hholds.2 rfl⟩⟩

theorem agreeParts_settleFrom (initial : Size) (wide high : Bool) (attempts : Nat) (force : Bool)
    (client : Size) :
    (H.since true).AgreeParts (fun _ ↦ True)
      (settleFrom first.toDisplayedDocument target.canvas initial wide high attempts force client)
      (settleFrom second.toDisplayedDocument target.canvas initial wide high attempts force
        client) := by
  induction attempts generalizing force client with
  | zero => exact agreeParts_pure trivial
  | succ attempts ih =>
    refine (agreeParts_ask (hunder.metrics.since true)).bind fun metrics _ ↦ ?_
    dsimp only
    split
    · exact agreeParts_pure trivial
    · exact (agreeParts_act (hunder.forceRecalculate force)).bind fun _ _ ↦ ih true metrics.client

theorem agreeParts_settleClientSize (initial : Size) (wide high : Bool) :
    (H.since (wide || high)).AgreeParts (fun _ ↦ True)
      (settleClientSize first.toDisplayedDocument target.canvas initial wide high)
      (settleClientSize second.toDisplayedDocument target.canvas initial wide high) := by
  unfold settleClientSize
  rw [← Bool.not_or]
  cases hgrew : wide || high with
  | false => exact agreeParts_pure trivial
  | true => exact agreeParts_settleFrom hunder initial wide high settleAttempts false initial

/-- What is known of the sessions side by side is that they began with the same frame. -/
theorem AgreeParts.of_current {good : β → Prop} {resized : Bool}
    {firstNext : ResizeSession → Attempt τ β} {secondNext : ResizeSession → Attempt σ β}
    (hnext : ∀ session otherSession : ResizeSession,
      otherSession.initial = session.initial → H.Expects session.initial.Roomy →
      (H.since resized).AgreeParts good (firstNext session) (secondNext otherSession)) :
    (H.since resized).AgreeParts good (Attempt.act Held.current >>= firstNext)
      (Attempt.act Held.current >>= secondNext) := by
  rintro one other ⟨hholds, hresized⟩
  obtain ⟨hinitial, hroomy⟩ := hunder.initial one other hholds
  rw [Attempt.results_bind, Attempt.results_bind, Attempt.results_act, Attempt.results_act]
  exact hnext one.session other.session hinitial hroomy one other ⟨hholds, hresized⟩

variable {options : CaptureOptions} (hoptions : H.Expects options.Allowed)

include hoptions

omit hunder in
/-- A plan of an axis agrees, and it makes the window no smaller. -/
theorem agreeParts_plan (resized : Bool) {input : AxisInput} {retention : Int32}
    (hwindow : H.Expects (0 ≤ input.window.toInt ∧ input.window.toInt ≤ 2147483647 - 65534))
    (hview : H.Expects (0 ≤ input.view.toInt)) (hclient : H.Expects (0 ≤ input.client.toInt))
    (hretention : H.Expects (0 ≤ retention.toInt)) :
    (H.since resized).AgreeParts (fun plan ↦ H.Expects (0 ≤ plan.targetWindow.toInt))
      (Attempt.check (planAxis input options.maxDimension retention))
      (Attempt.check (planAxis input options.maxDimension retention)) := by
  refine agreeParts_check ?_ fun plan hplan ↦ ?_
  · change H.Expects _
    refine (hoptions.and (hwindow.and (hview.and (hclient.and hretention)))).mono ?_
    rintro ⟨hallowed, ⟨-, hhigh⟩, hview, hclient, hretention⟩
    exact planAxis_of_room hallowed hhigh hview hclient hretention
  · exact hwindow.mono fun hlength ↦ Int.le_trans hlength.1 (le_targetWindow hplan)

theorem agreeParts_resolveViewport {view : Size} (hview : H.Expects view.Nonnegative) :
    H.AgreeParts (fun resolved ↦ H.Expects resolved.initialClient.Nonnegative)
      (resolveViewport first.toWindowSystem first.toDisplayedDocument options target.canvas view)
      (resolveViewport second.toWindowSystem second.toDisplayedDocument options target.canvas
        view) := by
  refine AgreeParts.of_since
    (AgreeParts.of_current hunder fun session otherSession hsame hframe ↦ ?_)
  obtain ⟨handle, frame, wasMaximized, demaximized, resized⟩ := session
  obtain ⟨handle', frame', wasMaximized', demaximized', resized'⟩ := otherSession
  obtain rfl : frame' = frame := hsame
  have hmetrics := fun resized ↦ agreeParts_ask (hunder.metrics.since resized)
  refine (hmetrics _).bind fun initial hinitial ↦ AgreeParts.bind (agreeParts_plan hoptions _
    (hframe.mono fun hroom ↦ ⟨hroom.width, hroom.width_le⟩) (hview.mono (·.width))
    (hinitial.mono (·.width)) (.inr (Int.le_refl 0))) fun width hwidth ↦ ?_
  refine AgreeParts.bind_growTo hunder _ _ ?_ ?_
  · exact (hwidth.and hframe).mono fun ⟨hwidth, hroom⟩ ↦ ⟨hwidth, hroom.height⟩
  refine (hmetrics _).bind fun afterWidth hafter ↦ AgreeParts.bind (agreeParts_plan hoptions _
    (hframe.mono fun hroom ↦ ⟨hroom.height, hroom.height_le⟩) (hview.mono (·.height))
    (hafter.mono (·.height)) (hoptions.mono fun hallowed ↦ ?_)) fun height hheight ↦ ?_
  · split
    · exact hallowed.scrollbarRetention
    · exact Int.le_refl 0
  refine AgreeParts.bind_growTo hunder _ _ ?_ ?_
  · exact (hwidth.and hheight).mono fun ⟨hwidth, hheight⟩ ↦ ⟨hwidth, hheight⟩
  refine (agreeParts_settleClientSize hunder _ _ _).bind fun settled _ ↦ agreeParts_pure ?_
  exact (hinitial.and hafter).mono fun ⟨hinitial, hafter⟩ ↦ ⟨hinitial.width, hafter.height⟩

omit hoptions

/-- What is drawn and checked of a drawable bitmap agrees. -/
theorem agree_drawFrom (sample : Size) (attempts : Nat) (drawn : Bool) {bitmap : Bitmap}
    (hbitmap : H.Expects bitmap.Drawable) :
    H.Agree (fun image? ↦ ∀ image, image? = some image → H.Expects image.Drawable)
      (Held.asking (drawFrom first.toWindowSystem target.content sample attempts drawn bitmap))
      (Held.asking (drawFrom second.toWindowSystem target.content sample attempts drawn
        bitmap)) := by
  induction attempts generalizing drawn bitmap with
  | zero =>
    refine agree_pure fun image himage ↦ ?_
    cases drawn with
    | false => cases himage
    | true => exact Option.some.inj himage ▸ hbitmap
  | succ attempts ih =>
    unfold drawFrom
    rw [Held.asking_bind, Held.asking_bind]
    refine (hunder.print bitmap hbitmap).bind fun reply hreply ↦ ?_
    rcases reply with ⟨error | _, printed⟩
    · simp only
      rw [Held.asking_bind, Held.asking_bind]
      exact hunder.redraw.bind fun _ _ ↦ ih drawn hreply
    · simp only
      rw [Held.asking_bind, Held.asking_bind]
      have hcheck : H.Expects (∃ uniform, printed.isUniform sample = .ok uniform) := by
        refine hreply.mono fun hdrawable ↦ ?_
        obtain ⟨value, hholds⟩ := hdrawable.readable.exists_holds
        obtain ⟨uniform, huniform, -⟩ := hdrawable.isUniform hholds sample
        exact ⟨uniform, huniform⟩
      refine (agree_check hcheck fun _ _ ↦ trivial).bind fun uniform _ ↦ ?_
      cases uniform with
      | true =>
        simp only [if_true]
        rw [Held.asking_bind, Held.asking_bind]
        exact hunder.redraw.bind fun _ _ ↦ ih true hreply
      | false => exact agree_pure fun image himage ↦ Option.some.inj himage ▸ hreply

theorem agree_drawView (size sample : Size) :
    H.Agree (fun image? ↦ ∀ image, image? = some image → H.Expects image.Drawable)
      (Held.asking (drawView first.toWindowSystem target.content size sample))
      (Held.asking (drawView second.toWindowSystem target.content size sample)) := by
  unfold drawView
  rw [Held.asking_bind, Held.asking_bind]
  refine hunder.pixelFormat.bind fun format _ ↦ ?_
  cases hblank : Bitmap.blank? size.width size.height format with
  | none => exact agree_pure nofun
  | some bitmap =>
    exact agree_drawFrom hunder sample drawAttempts false
      (.inr (Bitmap.drawable_of_blank? hblank))

include hoptions

/-- What an attempt does while it holds its session agrees. -/
theorem agreeParts_captureHeld :
    H.AgreeParts (fun image ↦ H.Expects image.Drawable) (captureHeld first options target)
      (captureHeld second options target) := by
  refine (agreeParts_ask hunder.view).bind fun view hview ↦ ?_
  refine (agreeParts_resolveViewport hunder hoptions hview).bind fun resolved hresolved ↦ ?_
  have hsample : ∀ side : Int32, H.Expects (0 ≤ side.toInt) →
      H.AgreeParts (fun _ ↦ True) (Attempt.check (Checked.subtract side options.sampleInset))
        (Attempt.check (Checked.subtract side options.sampleInset)) := by
    refine fun side hside ↦ agreeParts_check ((hside.and hoptions).mono ?_) fun _ _ ↦ trivial
    exact fun ⟨hside, hallowed⟩ ↦ ⟨_, Checked.subtract_of_nonneg hside hallowed.sampleInset⟩
  refine (hsample _ (hresolved.mono (·.width))).bind fun width _ ↦ ?_
  refine (hsample _ (hresolved.mono (·.height))).bind fun height _ ↦ ?_
  refine (agreeParts_act (agree_drawView hunder _ _)).bind fun image? himage ↦ ?_
  cases image? with
  | none => exact agreeParts_throw _
  | some image => exact agreeParts_pure (himage image rfl)

end Under

/-! ### An attempt -/

/-- The sessions of an alignment are closed alike. -/
structure Closes (A : Alignment τ σ) (H : Alignment (Held τ) (Held σ)) (first : Host τ)
    (second : Host σ) : Prop where
  holds : ∀ one other, H.holds one other →
    ((other.session.close second.toWindowSystem).results other.host).1 =
        ((one.session.close first.toWindowSystem).results one.host).1 ∧
      A.Leaves (fun _ ↦ True) ((one.session.close first.toWindowSystem).results one.host).1
        ((one.session.close first.toWindowSystem).results one.host).2
        ((other.session.close second.toWindowSystem).results other.host).2
  fallen : ∀ one other, H.fallen one other →
    A.fallen ((one.session.close first.toWindowSystem).results one.host).2
      ((other.session.close second.toWindowSystem).results other.host).2

/-- How two attempts begin: with the same fault, with the same refusal, or with sessions under which
the calls agree. -/
inductive Begins (A : Alignment τ σ) (first : Host τ) (second : Host σ) (target : CaptureTarget)
    (one : τ) (other : σ) : Prop
  | fault {fault : Fault} {one' : τ} {other' : σ}
      (hone : (ResizeSession.begin first.toWindowSystem target.topLevel).results one =
        (.error fault, one'))
      (hother : (ResizeSession.begin second.toWindowSystem target.topLevel).results other =
        (.error fault, other'))
      (hfallen : A.fallen one' other')
  | refused {error : HostError} {one' : τ} {other' : σ}
      (hone : (ResizeSession.begin first.toWindowSystem target.topLevel).results one =
        (.ok (.error error), one'))
      (hother : (ResizeSession.begin second.toWindowSystem target.topLevel).results other =
        (.ok (.error error), other'))
      (hholds : A.holds one' other')
  | begun {oneSession otherSession : ResizeSession} {one' : τ} {other' : σ}
      (H : Alignment (Held τ) (Held σ))
      (hone : (ResizeSession.begin first.toWindowSystem target.topLevel).results one =
        (.ok (.ok oneSession), one'))
      (hother : (ResizeSession.begin second.toWindowSystem target.topLevel).results other =
        (.ok (.ok otherSession), other'))
      (hholds : H.holds ⟨oneSession, one'⟩ ⟨otherSession, other'⟩)
      (hlenient : H.lenient ↔ A.lenient) (hunder : H.Under first second target)
      (hcloses : A.Closes H first second)

/-- Attempts on a target begin alike. -/
def Attempts (A : Alignment τ σ) (first : Host τ) (second : Host σ) (target : CaptureTarget) :
    Prop :=
  ∀ one other, A.holds one other → A.Begins first second target one other

variable {A : Alignment τ σ} {first : Host τ} {second : Host σ}

/-- Computations that agree under their sessions agree when these are closed behind them. -/
theorem Closes.during {H : Alignment (Held τ) (Held σ)} (hcloses : A.Closes H first second)
    {good : α → Prop} {body : Action (Held τ) α} {otherBody : Action (Held σ) α}
    (hbody : H.Agree good body otherBody) {session otherSession : ResizeSession} {one : τ}
    {other : σ} (hholds : H.holds ⟨session, one⟩ ⟨otherSession, other⟩) :
    ((otherSession.during second.toWindowSystem otherBody).results other).1 =
        ((session.during first.toWindowSystem body).results one).1 ∧
      A.Leaves good ((session.during first.toWindowSystem body).results one).1
        ((session.during first.toWindowSystem body).results one).2
        ((otherSession.during second.toWindowSystem otherBody).results other).2 := by
  obtain ⟨hends, hleaves⟩ := hbody _ _ hholds
  rw [ResizeSession.results_during_snd, ResizeSession.results_during_snd]
  simp only [ResizeSession.during, Action.results_ofResults]
  generalize body.results ⟨session, one⟩ = ends at hends hleaves ⊢
  generalize otherBody.results ⟨otherSession, other⟩ = otherEnds at hends hleaves ⊢
  obtain ⟨ended, held⟩ := ends
  obtain ⟨otherEnded, otherHeld⟩ := otherEnds
  obtain rfl : otherEnded = ended := hends
  cases otherEnded with
  | error fault => exact ⟨rfl, hcloses.fallen held otherHeld hleaves⟩
  | ok value =>
    obtain ⟨hclosed, hlast⟩ := hcloses.holds held otherHeld hleaves.1
    generalize (held.session.close first.toWindowSystem).results held.host = closes
      at hclosed hlast ⊢
    generalize (otherHeld.session.close second.toWindowSystem).results otherHeld.host = otherCloses
      at hclosed hlast ⊢
    obtain ⟨closed, last⟩ := closes
    obtain ⟨otherClosed, otherLast⟩ := otherCloses
    obtain rfl : otherClosed = closed := hclosed
    cases otherClosed with
    | error fault => exact ⟨rfl, hlast⟩
    | ok _ => exact ⟨rfl, hlast.1, hleaves.2⟩

section Attempts

variable {options : CaptureOptions} (hoptions : A.Expects options.Allowed) {target : CaptureTarget}
  (hattempts : A.Attempts first second target)

include hoptions hattempts

theorem agree_captureOnce :
    A.Agree (fun ended ↦ ∀ image, ended = .ok image → A.Expects image.Drawable)
      (captureOnce first options target) (captureOnce second options target) := by
  intro one other hholds
  unfold captureOnce
  rw [Action.bind_results, Action.bind_results]
  cases hattempts one other hholds with
  | fault hone hother hfallen =>
    rw [hone, hother]
    exact ⟨rfl, hfallen⟩
  | refused hone hother hholds =>
    rw [hone, hother]
    exact ⟨rfl, hholds, nofun⟩
  | begun H hone hother hholds hlenient hunder hcloses =>
    rw [hone, hother]
    have hexpects : ∀ wanted, H.Expects wanted ↔ A.Expects wanted :=
      fun wanted ↦ or_congr_left hlenient
    have hheld := agreeParts_captureHeld hunder ((hexpects _).mpr hoptions)
    refine hcloses.during (Agree.mono hheld fun ended hgood image himage ↦ ?_) hholds
    exact (hexpects _).mp (hgood image himage)

theorem agree_captureFrom (attempts : Nat) :
    A.Agree (fun ended ↦ ∀ image, ended = .ok image → A.Expects image.Drawable)
      (captureFrom first options target attempts) (captureFrom second options target attempts) := by
  induction attempts with
  | zero => exact agree_pure nofun
  | succ attempts ih =>
    refine (agree_captureOnce hoptions hattempts).bind fun captured hcaptured ↦ ?_
    cases captured with
    | error error =>
      dsimp only
      split
      · exact agree_pure nofun
      · exact ih
    | ok image => exact agree_pure fun _ himage ↦ Except.ok.inj himage ▸ hcaptured image rfl

/-- The attempts of a request and its answer agree: an image has an answer. -/
theorem agree_answerFrom :
    A.Agree (fun _ ↦ True) (answerFrom first options target)
      (answerFrom second options target) := by
  refine (agree_captureFrom hoptions hattempts captureAttempts).bind fun captured hcaptured ↦ ?_
  cases captured with
  | error response => exact agree_pure trivial
  | ok image =>
    refine agree_check ((hcaptured image rfl).mono fun hdrawable ↦ ?_) fun _ _ ↦ trivial
    obtain ⟨text, hanswer, -⟩ := hdrawable.exists_respond
    exact ⟨.success text, hanswer⟩

end Attempts

/-! ### A request -/

theorem agree_findTarget (hsurveys : A.Surveys first second) :
    A.Agree (fun _ ↦ True) (findTarget first) (findTarget second) := by
  refine hsurveys.topLevelWindow.bind fun topLevel _ ↦
    hsurveys.contentWindow.bind fun content _ ↦ ?_
  dsimp only
  split
  · refine hsurveys.hasDocument.bind fun documented _ ↦ ?_
    split
    · refine hsurveys.isStandardsMode.bind fun standards _ ↦
        (hsurveys.hasElement _).bind fun present _ ↦ ?_
      split <;> exact agree_pure trivial
    · exact agree_pure trivial
  · exact agree_pure trivial

/-- Requests agree. Assumes: options that are allowed, unless faults are let pass; the questions
about the surface agree, and attempts on any target that they find begin alike. -/
theorem agree_takeScreenshot {options : CaptureOptions} (hoptions : A.Expects options.Allowed)
    (hfound : A.Agree (fun found ↦ ∀ target, found = .ok target → A.Attempts first second target)
      (findTarget first) (findTarget second)) :
    A.Agree (fun _ ↦ True) (takeScreenshot first options) (takeScreenshot second options) := by
  refine hfound.bind fun found hattempts ↦ ?_
  cases found with
  | error error => exact agree_pure trivial
  | ok target => exact agree_answerFrom hoptions (hattempts target rfl)

end Alignment

end PageCapture
