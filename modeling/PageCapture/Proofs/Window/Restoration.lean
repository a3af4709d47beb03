import PageCapture.Proofs.Screenshot.Answer
import PageCapture.Proofs.Window.Growing

/-!
# Restoration of the frame

A capture takes the frame of a window out of its geometry, and the window is not the capture's own.
The host may refuse anything, say one thing now and another later, and an attempt may break off in
the middle. This module says what is left of all that in the sequence of calls that change the
geometry of a window.

`PutsBack` is the law for the exchanges of one attempt: either no geometry is changed at all, or the
window leaves the maximized state where it was said to be maximized, is resized once or twice and
is then put back by a single call, behind which nothing is drawn or measured any more but the size
of the frame itself. The state that carries the law through an attempt is `ResizedTo`, with the
sizes that the frame has been given so far; `Attempt.Resizes` bounds how many more there can be, and
adds up over the parts of an attempt (`Attempt.Resizes.bind`). `captureHeld_resizes` is the bound
for the whole of it, whichever way it ends, and `captureOnce_putsBack` the law of an attempt.

`takeScreenshot_putsBack` is the law of a request: its exchanges are questions that change nothing,
and then those of at most two attempts, the second of which begins where the first has ended.
-/

set_option autoImplicit false
set_option relaxedAutoImplicit false

namespace PageCapture

variable {σ α β : Type}

/-! ### The law of an attempt -/

/-- The calls by which the frame is given some sizes, one after the other: a maximized window leaves
that state in front of the first. -/
def growingCalls (topLevel : WindowHandle) (wasMaximized : Bool) (sizes : List Size) : List Call :=
  (if wasMaximized && !sizes.isEmpty then [.showRestored topLevel] else []) ++
    sizes.map (.setWindowSize topLevel)

/-- The call that puts a window back. -/
def restoringCall (topLevel : WindowHandle) (initial : Size) (wasMaximized : Bool) : Call :=
  if wasMaximized then .maximize topLevel else .setWindowSize topLevel initial

/-- What the exchanges of an attempt on a window are like. -/
inductive PutsBack (topLevel : WindowHandle) : List Exchange → Prop
  /-- No call changes the geometry of a window. -/
  | untouched {exchanges : List Exchange} (hnone : geometryCalls exchanges = []) :
    PutsBack topLevel exchanges
  /-- The attempt begins with the size of the frame and the question whether it is maximized. What
  it does then resizes the frame to one or two sizes. A single call puts the window back; behind it
  at most the size of the frame is read. -/
  | restored {initial : Size} {wasMaximized : Bool} {held : List Exchange} {sizes : List Size}
      {restoring : Exchange} {reading : List Exchange}
      (hsizes : sizes.length = 1 ∨ sizes.length = 2)
      (hheld : geometryCalls held = growingCalls topLevel wasMaximized sizes)
      (hrestoring : restoring.call? = some (restoringCall topLevel initial wasMaximized))
      (hreading : ∀ exchange ∈ reading, ∃ reply, exchange = .windowSize topLevel reply) :
    PutsBack topLevel (.windowSize topLevel (.ok initial) :: .isMaximized topLevel wasMaximized ::
      (held ++ restoring :: reading))

/-! ### Actions that leave the geometry alone -/

/-- Since `earlier` a transcript has grown by exchanges that change the geometry by `calls`. -/
def Transcript.Grown (earlier : List Exchange) (calls : List Call) (transcript : Transcript σ) :
    Prop :=
  ∃ since, transcript.exchanges = earlier ++ since ∧ geometryCalls since = calls

theorem Transcript.Grown.append {earlier : List Exchange} {first second : List Call}
    {middle last : Transcript σ} (hfirst : middle.Grown earlier first)
    (hsecond : last.Grown middle.exchanges second) : last.Grown earlier (first ++ second) := by
  obtain ⟨since, hmiddle, rfl⟩ := hfirst
  obtain ⟨more, hlast, rfl⟩ := hsecond
  exact ⟨since ++ more, by simp [hlast, hmiddle], geometryCalls_append since more⟩

/-- An action that changes no geometry, whichever way it ends. -/
def Action.Quiet (action : Action (Transcript σ) α) : Prop :=
  action.Only fun exchange ↦ geometryCalls [exchange] = []

theorem Action.Quiet.grown {action : Action (Transcript σ) α} (hquiet : action.Quiet)
    (transcript : Transcript σ) : (action.results transcript).2.Grown transcript.exchanges [] := by
  obtain ⟨since, hsince, hnone⟩ := hquiet transcript
  exact ⟨since, hsince, geometryCalls_eq_nil hnone⟩

/-- Drawing changes no geometry, however often it is tried. -/
theorem drawFrom_quiet {host : Host σ} (hhost : host.Responsive) (handle : WindowHandle)
    (sample : Size) (attempts : Nat) (drawn : Bool) (bitmap : Bitmap) :
    (drawFrom host.transcribed.toWindowSystem handle sample attempts drawn bitmap).Quiet := by
  have hredraw : (host.transcribed.redraw handle).Quiet :=
    Action.only_noting (hhost.redraw handle) fun _ ↦ rfl
  induction attempts generalizing drawn bitmap with
  | zero => exact Action.only_of_still fun _ ↦ rfl
  | succ attempts ih =>
    refine Action.Only.bind (Action.only_noting (hhost.print handle bitmap) fun _ ↦ rfl)
      fun printed ↦ ?_
    rcases printed with ⟨error | _, printed⟩
    · exact Action.Only.bind hredraw fun _ ↦ ih drawn printed
    · refine Action.Only.bind (Action.only_of_still fun _ ↦ rfl) fun uniform ↦ ?_
      cases uniform with
      | true => exact Action.Only.bind hredraw fun _ ↦ ih true printed
      | false => exact Action.only_of_still fun _ ↦ rfl

theorem drawView_quiet {host : Host σ} (hhost : host.Responsive) (handle : WindowHandle)
    (size sample : Size) : (drawView host.transcribed.toWindowSystem handle size sample).Quiet := by
  refine Action.Only.bind (Action.only_noting hhost.pixelFormat fun _ ↦ rfl) fun format ↦ ?_
  cases Bitmap.blank? size.width size.height format with
  | none => exact Action.only_of_still fun _ ↦ rfl
  | some bitmap => exact drawFrom_quiet hhost handle sample drawAttempts false bitmap

/-! ### Parts of an attempt that resize the frame -/

/-- What a session knows once the frame has been given some sizes. -/
def ResizeSession.after (topLevel : WindowHandle) (initial : Size) (wasMaximized : Bool)
    (sizes : List Size) : ResizeSession where
  handle := topLevel
  initial := initial
  wasMaximized := wasMaximized
  demaximized := wasMaximized && !sizes.isEmpty
  resized := !sizes.isEmpty

/-- The state of an attempt that has given the frame some sizes since its session began. -/
structure ResizedTo (topLevel : WindowHandle) (initial : Size) (wasMaximized : Bool)
    (earlier : List Exchange) (sizes : List Size) (held : Held (Transcript σ)) : Prop where
  session : held.session = ResizeSession.after topLevel initial wasMaximized sizes
  grown : held.host.Grown earlier (growingCalls topLevel wasMaximized sizes)

/-- A part of an attempt that gives the frame at most `count` sizes, whichever way it ends, and does
not change the geometry of a window otherwise. -/
def Attempt.Resizes (count : Nat) (part : Attempt (Transcript σ) α) : Prop :=
  ∀ topLevel initial wasMaximized earlier sizes,
    Attempt.Ends (ResizedTo topLevel initial wasMaximized earlier sizes) part fun _ held ↦
      ∃ more, more.length ≤ count ∧
        ResizedTo topLevel initial wasMaximized earlier (sizes ++ more) held

theorem Attempt.resizes_of_still {part : Attempt (Transcript σ) α}
    (hstill : ∀ held, (Action.results part.run held).2 = held) : part.Resizes 0 := by
  intro topLevel initial wasMaximized earlier sizes held hheld
  exact ⟨[], by simp, by simpa [hstill] using hheld⟩

/-- The bounds of two parts one after the other add up. -/
theorem Attempt.Resizes.bind {first second : Nat} {part : Attempt (Transcript σ) α}
    {next : α → Attempt (Transcript σ) β} (hfirst : part.Resizes first)
    (hnext : ∀ value, (next value).Resizes second) : (part >>= next).Resizes (first + second) := by
  intro topLevel initial wasMaximized earlier sizes
  have hearly : ∀ held : Held (Transcript σ),
      (∃ more, more.length ≤ first ∧
        ResizedTo topLevel initial wasMaximized earlier (sizes ++ more) held) →
      ∃ more, more.length ≤ first + second ∧
        ResizedTo topLevel initial wasMaximized earlier (sizes ++ more) held := by
    rintro held ⟨more, hmore, hheld⟩
    exact ⟨more, by omega, hheld⟩
  refine (hfirst topLevel initial wasMaximized earlier sizes).bind (fun _ ↦ hearly)
    (fun _ ↦ hearly) fun value held hmiddle ↦ ?_
  obtain ⟨more, hmore, hheld⟩ := hmiddle
  obtain ⟨rest, hrest, hlast⟩ := hnext value topLevel initial wasMaximized earlier _ held hheld
  exact ⟨more ++ rest, by simp; omega, by simpa using hlast⟩

/-- A part that gives the frame no size does not count. -/
theorem Attempt.Resizes.bind_quiet {count : Nat} {part : Attempt (Transcript σ) α}
    {next : α → Attempt (Transcript σ) β} (hfirst : part.Resizes 0)
    (hnext : ∀ value, (next value).Resizes count) : (part >>= next).Resizes count := by
  have hsum := hfirst.bind hnext
  rwa [Nat.zero_add] at hsum

/-- A quiet action under the session leaves the sizes as they are. -/
theorem ResizedTo.asking {topLevel : WindowHandle} {initial : Size} {wasMaximized : Bool}
    {earlier : List Exchange} {sizes : List Size} {held : Held (Transcript σ)}
    (hheld : ResizedTo topLevel initial wasMaximized earlier sizes held)
    {action : Action (Transcript σ) α} (hquiet : action.Quiet) :
    ResizedTo topLevel initial wasMaximized earlier sizes
      { held with host := (action.results held.host).2 } where
  session := hheld.session
  grown := by simpa using hheld.grown.append (hquiet.grown held.host)

theorem Attempt.resizes_act {action : Action (Transcript σ) α} (hquiet : action.Quiet) :
    (Attempt.act (Held.asking action)).Resizes 0 := by
  intro topLevel initial wasMaximized earlier sizes held hheld
  refine ⟨[], by simp, ?_⟩
  rw [Attempt.results_act, List.append_nil]
  exact hheld.asking hquiet

theorem Attempt.resizes_ask {action : Action (Transcript σ) (Except HostError α)}
    (hquiet : action.Quiet) : (Attempt.ask action).Resizes 0 := by
  intro topLevel initial wasMaximized earlier sizes held hheld
  refine ⟨[], by simp, ?_⟩
  rw [Attempt.results_ask, List.append_nil]
  exact hheld.asking hquiet

theorem Attempt.resizes_check (computed : Except Fault α) :
    (Attempt.check computed : Attempt (Transcript σ) α).Resizes 0 :=
  Attempt.resizes_of_still fun held ↦ by rw [Attempt.results_check]

/-! ### The resizes of an attempt -/

section Responsive

variable {host : Host σ} (hhost : host.Responsive)

include hhost

/-- Growing the frame gives it at most one size. -/
theorem growTo_resizes (needed : Bool) (size : Size) :
    (growTo host.transcribed.toWindowSystem needed size).Resizes 1 := by
  rintro topLevel initial wasMaximized earlier sizes ⟨session, transcript⟩ ⟨hsession, hgrown⟩
  simp only at hsession hgrown
  subst hsession
  have hleft : (ResizeSession.after topLevel initial wasMaximized sizes).demaximized = true →
      (ResizeSession.after topLevel initial wasMaximized sizes).wasMaximized = true := by
    simp only [ResizeSession.after, Bool.and_eq_true]
    exact And.left
  obtain ⟨since, state, hgrowing, hends⟩ := growTo_asks hhost needed size hleft transcript
  rw [hends]
  cases needed with
  | false =>
    cases hgrowing
    obtain ⟨front, hfront, hcalls⟩ := hgrown
    exact ⟨[], by simp, by simp [ResizeSession.grown], front, by simpa using hfront,
      by simpa using hcalls⟩
  | true =>
    have hsince : (⟨state, transcript.exchanges ++ since⟩ : Transcript σ).Grown
        transcript.exchanges _ := ⟨since, rfl, hgrowing.geometryCalls_eq⟩
    have hboth := hgrown.append hsince
    refine ⟨[size], by simp, by simp [ResizeSession.grown, ResizeSession.after], ?_⟩
    cases wasMaximized <;> cases sizes <;>
      simpa [growingCalls, ResizeSession.after] using hboth

theorem settleFrom_resizes (canvas : Canvas) (initial : Size) (resizedWidth resizedHeight : Bool)
    (attempts : Nat) (force : Bool) (client : Size) :
    (settleFrom host.transcribed.toDisplayedDocument canvas initial resizedWidth resizedHeight
      attempts force client).Resizes 0 := by
  induction attempts generalizing force client with
  | zero => exact Attempt.resizes_of_still fun _ ↦ rfl
  | succ attempts ih =>
    refine (Attempt.resizes_ask (Action.only_noting (hhost.metrics canvas) ?_)).bind_quiet
      fun metrics ↦ ?_
    · exact fun _ ↦ rfl
    · simp only
      split
      · exact Attempt.resizes_of_still fun _ ↦ rfl
      · refine (Attempt.resizes_act (Action.only_noting (hhost.forceRecalculate force)
          fun _ ↦ rfl)).bind_quiet fun _ ↦ ?_
        exact ih true metrics.client

theorem settleClientSize_resizes (canvas : Canvas) (initial : Size)
    (resizedWidth resizedHeight : Bool) :
    (settleClientSize host.transcribed.toDisplayedDocument canvas initial resizedWidth
      resizedHeight).Resizes 0 := by
  unfold settleClientSize
  split
  · exact Attempt.resizes_of_still fun _ ↦ rfl
  · exact settleFrom_resizes hhost canvas initial resizedWidth resizedHeight _ _ _

/-- A resolution resizes the frame at most once for each axis. -/
theorem resolveViewport_resizes (options : CaptureOptions) (canvas : Canvas) (view : Size) :
    (resolveViewport host.transcribed.toWindowSystem host.transcribed.toDisplayedDocument options
      canvas view).Resizes 2 := by
  have hmetrics : (Attempt.ask (host.transcribed.metrics canvas)).Resizes 0 :=
    Attempt.resizes_ask (Action.only_noting (hhost.metrics canvas) fun _ ↦ rfl)
  unfold resolveViewport
  refine Attempt.Resizes.bind_quiet ?_ fun session ↦ ?_
  · exact Attempt.resizes_of_still fun _ ↦ rfl
  refine hmetrics.bind_quiet fun initial ↦ ?_
  refine (Attempt.resizes_check _).bind_quiet fun width ↦ ?_
  change Attempt.Resizes (1 + 1) _
  refine (growTo_resizes hhost _ _).bind fun _ ↦ ?_
  refine hmetrics.bind_quiet fun afterWidth ↦ ?_
  refine (Attempt.resizes_check _).bind_quiet fun height ↦ ?_
  change Attempt.Resizes (1 + 0) _
  refine (growTo_resizes hhost _ _).bind fun _ ↦ ?_
  refine (settleClientSize_resizes hhost _ _ _ _).bind_quiet fun settled ↦ ?_
  exact Attempt.resizes_of_still fun _ ↦ rfl

/-- Whichever way what an attempt does under its session ends, it has resized the frame at most
twice. -/
theorem captureHeld_resizes (options : CaptureOptions) (target : CaptureTarget) :
    (captureHeld host.transcribed options target).Resizes 2 := by
  unfold captureHeld
  refine (Attempt.resizes_ask (Action.only_noting (hhost.windowSize target.content)
    fun _ ↦ rfl)).bind_quiet fun view ↦ ?_
  change Attempt.Resizes (2 + 0) _
  refine (resolveViewport_resizes hhost options target.canvas view).bind fun resolved ↦ ?_
  refine (Attempt.resizes_check _).bind_quiet fun sampleWidth ↦ ?_
  refine (Attempt.resizes_check _).bind_quiet fun sampleHeight ↦ ?_
  refine (Attempt.resizes_act (drawView_quiet hhost _ _ _)).bind_quiet fun image ↦ ?_
  cases image <;> exact Attempt.resizes_of_still fun _ ↦ rfl

/-! ### The law of an attempt, proved -/

/-- A session begins with the size of the frame and, where that can be had, with the question
whether the window is maximized. -/
theorem begin_exchanges (handle : WindowHandle) (transcript : Transcript σ) :
    (∃ error last, (ResizeSession.begin host.transcribed.toWindowSystem handle).results transcript =
      (.ok (.error error),
        ⟨last, transcript.exchanges ++ [.windowSize handle (.error error)]⟩)) ∨
    ∃ initial wasMaximized last,
      (ResizeSession.begin host.transcribed.toWindowSystem handle).results transcript =
        (.ok (.ok (ResizeSession.after handle initial wasMaximized [])),
          ⟨last, transcript.exchanges ++
            [.windowSize handle (.ok initial), .isMaximized handle wasMaximized]⟩) := by
  obtain ⟨read, middle, hread⟩ := Transcript.results_noting (.windowSize handle)
    (hhost.windowSize handle) transcript
  unfold ResizeSession.begin
  rw [Action.bind_results, show (host.transcribed.windowSize handle).results transcript = _
    from hread]
  cases read with
  | error error => exact .inl ⟨error, middle, rfl⟩
  | ok initial =>
    obtain ⟨wasMaximized, last, hasked⟩ := Transcript.results_noting (.isMaximized handle)
      (hhost.isMaximized handle)
      ⟨middle, transcript.exchanges ++ [.windowSize handle (.ok initial)]⟩
    refine .inr ⟨initial, wasMaximized, last, ?_⟩
    simp only
    rw [Action.bind_results, show (host.transcribed.isMaximized handle).results _ = _ from hasked]
    simp [ResizeSession.after]

/-- Closing a session that resized the frame is the one restoring call, behind which at most the
size of the frame is read. -/
theorem close_exchanges (topLevel : WindowHandle) (initial : Size) (wasMaximized : Bool)
    {sizes : List Size} (hsizes : sizes ≠ []) (transcript : Transcript σ) :
    ∃ restoring reading, (((ResizeSession.after topLevel initial wasMaximized sizes).close
        host.transcribed.toWindowSystem).results transcript).2.exchanges =
          transcript.exchanges ++ restoring :: reading ∧
      restoring.call? = some (restoringCall topLevel initial wasMaximized) ∧
      ∀ exchange ∈ reading, ∃ reply, exchange = .windowSize topLevel reply := by
  have hmutated : (ResizeSession.after topLevel initial wasMaximized sizes).isMutated = true := by
    simp [ResizeSession.isMutated, ResizeSession.after, hsizes]
  rw [ResizeSession.close_of_mutated hmutated]
  cases wasMaximized with
  | true =>
    obtain ⟨_, last, hmaximize⟩ := Transcript.results_noting (fun _ ↦ .maximize topLevel)
      (hhost.maximize topLevel) transcript
    refine ⟨.maximize topLevel, [], ?_, rfl, by simp⟩
    exact congrArg (fun ends ↦ ends.2.exchanges) hmaximize
  | false =>
    obtain ⟨resizing, observed, state, hresizing, hresize⟩ :=
      resize_asks hhost topLevel initial transcript
    have hrestore : (restoreWindow host.transcribed.toWindowSystem topLevel initial false).results
        transcript = (.ok (), ⟨state, transcript.exchanges ++ resizing⟩) := by
      unfold restoreWindow
      rw [if_neg Bool.false_ne_true, Action.bind_results, hresize]
      rfl
    have hexchanges := congrArg (fun ends ↦ ends.2.exchanges) hrestore
    cases hresizing with
    | refused error => exact ⟨_, [], hexchanges, rfl, by simp⟩
    | granted reply => exact ⟨_, [.windowSize topLevel reply], hexchanges, rfl, by simp⟩

/-- What happens while a session is held and when it is closed. Assumes: a part of an attempt that
resizes the frame at most twice. Either nothing changes the geometry, or the frame is resized once
or twice and a single call puts it back. -/
theorem during_exchanges (topLevel : WindowHandle) (initial : Size) (wasMaximized : Bool)
    {part : Attempt (Transcript σ) α} (hpart : part.Resizes 2) (begun : Transcript σ) :
    ∃ since, (((ResizeSession.after topLevel initial wasMaximized []).during
        host.transcribed.toWindowSystem part.run).results begun).2.exchanges =
          begun.exchanges ++ since ∧
      (geometryCalls since = [] ∨
        ∃ held sizes restoring reading, since = held ++ restoring :: reading ∧
          (sizes.length = 1 ∨ sizes.length = 2) ∧
          geometryCalls held = growingCalls topLevel wasMaximized sizes ∧
          restoring.call? = some (restoringCall topLevel initial wasMaximized) ∧
          ∀ exchange ∈ reading, ∃ reply, exchange = .windowSize topLevel reply) := by
  obtain ⟨sizes, hcount, hsession, held, hexchanges, hheld⟩ :=
    hpart topLevel initial wasMaximized begun.exchanges []
      ⟨ResizeSession.after topLevel initial wasMaximized [], begun⟩
      ⟨rfl, [], by simp, by simp [growingCalls]⟩
  rw [List.nil_append] at hsession hheld
  rw [ResizeSession.results_during_snd, hsession]
  by_cases hsizes : sizes = []
  · subst hsizes
    rw [ResizeSession.results_close_of_untouched (by simp [ResizeSession.after,
      ResizeSession.isMutated])]
    exact ⟨held, hexchanges, .inl (by simpa [growingCalls] using hheld)⟩
  · obtain ⟨restoring, reading, hclose, hrestoring, hreading⟩ :=
      close_exchanges hhost topLevel initial wasMaximized hsizes _
    have hlength : sizes.length = 1 ∨ sizes.length = 2 := by
      have := List.length_pos_iff.mpr hsizes
      omega
    refine ⟨held ++ restoring :: reading, ?_,
      .inr ⟨held, sizes, restoring, reading, rfl, hlength, hheld, hrestoring, hreading⟩⟩
    exact hclose.trans (by rw [hexchanges, List.append_assoc])

/-- Whichever way an attempt ends, its exchanges put the window back. -/
theorem captureOnce_putsBack (options : CaptureOptions) (target : CaptureTarget)
    (transcript : Transcript σ) :
    ∃ since, ((captureOnce host.transcribed options target).results transcript).2.exchanges =
        transcript.exchanges ++ since ∧ PutsBack target.topLevel since := by
  unfold captureOnce
  rw [Action.bind_results]
  rcases begin_exchanges hhost target.topLevel transcript with
    ⟨error, last, hbegin⟩ | ⟨initial, wasMaximized, last, hbegin⟩
  · rw [hbegin]
    exact ⟨_, rfl, .untouched rfl⟩
  · rw [hbegin]
    obtain ⟨since, hexchanges, hsince⟩ := during_exchanges hhost target.topLevel initial
      wasMaximized (captureHeld_resizes hhost options target) ⟨last, _⟩
    refine ⟨.windowSize target.topLevel (.ok initial) ::
      .isMaximized target.topLevel wasMaximized :: since, ?_, ?_⟩
    · exact hexchanges.trans (by rw [List.append_assoc]; rfl)
    · rcases hsince with hnone | ⟨held, sizes, restoring, reading, rfl, hlength, hheld, hlast⟩
      · exact .untouched hnone
      · exact .restored hlength hheld hlast.1 hlast.2

/-! ### The law of a request -/

omit hhost in
/-- The exchanges of attempts on a target that are made one after the other, each from the state in
which the one before has ended. -/
inductive Attempts (host : Host σ) (options : CaptureOptions) (target : CaptureTarget) :
    Transcript σ → List (List Exchange) → Transcript σ → Prop
  | none (transcript : Transcript σ) : Attempts host options target transcript [] transcript
  | more {first last : Transcript σ} {since : List Exchange} {rest : List (List Exchange)}
      (hsince : ((captureOnce host.transcribed options target).results first).2.exchanges =
        first.exchanges ++ since)
      (hrest : Attempts host options target
        ((captureOnce host.transcribed options target).results first).2 rest last) :
    Attempts host options target first (since :: rest) last

/-- Attempts are made one after the other until one gives a picture. -/
theorem captureFrom_attempts (options : CaptureOptions) (target : CaptureTarget) (attempts : Nat)
    (transcript : Transcript σ) :
    ∃ made, made.length ≤ attempts ∧ (∀ since ∈ made, PutsBack target.topLevel since) ∧
      Attempts host options target transcript made
        ((captureFrom host.transcribed options target attempts).results transcript).2 := by
  induction attempts generalizing transcript with
  | zero => exact ⟨[], Nat.le_refl _, by simp, .none transcript⟩
  | succ attempts ih =>
    obtain ⟨since, hsince, hlaw⟩ := captureOnce_putsBack hhost options target transcript
    have hone : ∀ last,
        ((captureOnce host.transcribed options target).results transcript).2 = last →
        ∃ made, made.length ≤ attempts + 1 ∧ (∀ since ∈ made, PutsBack target.topLevel since) ∧
          Attempts host options target transcript made last := by
      rintro last rfl
      exact ⟨[since], by simp, by simpa using hlaw, .more hsince (.none _)⟩
    rw [captureFrom, Action.bind_results]
    rcases hends : (captureOnce host.transcribed options target).results transcript with
      ⟨fault | error | image, last⟩
    · exact hone last (by rw [hends])
    · simp only
      split
      · exact hone last (by rw [hends])
      · obtain ⟨made, hlength, hmade, hattempts⟩ := ih last
        refine ⟨since :: made, by simpa using hlength, List.forall_mem_cons.mpr ⟨hlaw, hmade⟩, ?_⟩
        exact .more hsince (by rwa [hends])
    · exact hone last (by rw [hends])

/-- Finding the target asks about the surface only. -/
theorem findTarget_only :
    (findTarget host.transcribed).Only fun exchange ↦ exchange.isSurvey = true := by
  unfold findTarget
  refine Action.Only.bind (Action.only_noting hhost.topLevelWindow fun _ ↦ rfl) fun topLevel ↦ ?_
  refine Action.Only.bind (Action.only_noting hhost.contentWindow fun _ ↦ rfl) fun content ↦ ?_
  dsimp only
  split
  · refine Action.Only.bind (Action.only_noting hhost.hasDocument fun _ ↦ rfl) fun documented ↦ ?_
    split
    · refine Action.Only.bind (Action.only_noting hhost.isStandardsMode fun _ ↦ rfl)
        fun standards ↦ ?_
      refine Action.Only.bind (Action.only_noting (hhost.hasElement _) fun _ ↦ rfl)
        fun present ↦ ?_
      split <;> exact Action.only_of_still fun _ ↦ rfl
    · exact Action.only_of_still fun _ ↦ rfl
  · exact Action.only_of_still fun _ ↦ rfl

omit hhost in
/-- Attempts one after the other leave the exchanges of each behind those of the one before. -/
theorem Attempts.exchanges {options : CaptureOptions} {target : CaptureTarget}
    {first last : Transcript σ} {made : List (List Exchange)}
    (hmade : Attempts host options target first made last) :
    last.exchanges = first.exchanges ++ made.flatten := by
  induction hmade with
  | none transcript => simp
  | more hsince hrest ih => rw [ih, hsince, List.flatten_cons, List.append_assoc]

/-- A request asks about the surface and makes then at most two attempts, each of which puts the
window back before the next begins. Assumes: a host that answers every call, with whatever reply.
The options are any, and every end is covered, a fault of the arithmetic included. -/
theorem takeScreenshot_putsBack (options : CaptureOptions) (start : σ) :
    ∃ asked : Transcript σ, ∃ attempts : List (List Exchange),
      ((takeScreenshot host.transcribed options).results ⟨start, []⟩).2.exchanges =
        asked.exchanges ++ attempts.flatten ∧
      (∀ exchange ∈ asked.exchanges, exchange.isSurvey = true) ∧
      attempts.length ≤ captureAttempts ∧
      (attempts = [] ∨ ∃ target,
        (findTarget host.transcribed).results ⟨start, []⟩ = (.ok (.ok target), asked) ∧
        Attempts host options target asked attempts
          ((takeScreenshot host.transcribed options).results ⟨start, []⟩).2 ∧
        ∀ since ∈ attempts, PutsBack target.topLevel since) := by
  obtain ⟨asked, hasked, hsurvey⟩ := findTarget_only hhost ⟨start, []⟩
  rw [List.nil_append] at hasked
  rw [← hasked] at hsurvey
  rcases hfound : (findTarget host.transcribed).results ⟨start, []⟩ with
    ⟨fault | error | target, last⟩
  · rw [hfound] at hsurvey
    have hfault : (takeScreenshot host.transcribed options).results ⟨start, []⟩ =
        (.error fault, last) := by
      rw [takeScreenshot, Action.bind_results, hfound]
    rw [hfault]
    exact ⟨last, [], (List.append_nil _).symm, hsurvey, by simp, .inl rfl⟩
  · rw [hfound] at hsurvey
    rw [results_takeScreenshot_of_error hfound]
    exact ⟨last, [], (List.append_nil _).symm, hsurvey, by simp, .inl rfl⟩
  · rw [hfound] at hsurvey
    obtain ⟨made, hlength, hmade, hattempts⟩ :=
      captureFrom_attempts hhost options target captureAttempts last
    rw [results_takeScreenshot_of_target hfound, results_answerFrom_snd]
    exact ⟨last, made, hattempts.exchanges, hsurvey, hlength, .inr ⟨target, rfl, hattempts, hmade⟩⟩

end Responsive

/-- The law for a request to a host that shows a page longer than its maximized window. -/
theorem takeScreenshot_putsBack_longPage :
    (∃ asked : Transcript Unit, ∃ attempts : List (List Exchange),
      ((takeScreenshot Host.longPage.transcribed {}).results ⟨(), []⟩).2.exchanges =
        asked.exchanges ++ attempts.flatten ∧
      (∀ exchange ∈ asked.exchanges, exchange.isSurvey = true) ∧
      attempts.length ≤ captureAttempts ∧
      (attempts = [] ∨ ∃ target,
        (findTarget Host.longPage.transcribed).results ⟨(), []⟩ = (.ok (.ok target), asked) ∧
        Attempts Host.longPage {} target asked attempts
          ((takeScreenshot Host.longPage.transcribed {}).results ⟨(), []⟩).2 ∧
        ∀ since ∈ attempts, PutsBack target.topLevel since)) ∧
    geometryCalls ((takeScreenshot Host.longPage.transcribed {}).results ⟨(), []⟩).2.exchanges =
      [.showRestored ⟨1⟩, .setWindowSize ⟨1⟩ ⟨8, 7⟩, .maximize ⟨1⟩] :=
  ⟨takeScreenshot_putsBack Host.longPage_responsive {} (), by decide +kernel⟩

end PageCapture
