import PageCapture.Proofs.Host.Tries
import PageCapture.Proofs.Viewport.Axis
import PageCapture.Proofs.Window.Growing

/-!
# What a resolution asks

A resolution in front of a host that may give any reply to any call. `resolveViewport_asks` says
which calls are made and what comes of them: `Resolution` lists the exchanges, and `AxisPlan.Meets`
is the law of the two plans in it. The layout is read for the width, and read again for the height
once the frame has been widened; the plan of an axis that grows is followed by one resize of the
frame (`Growing`), and where an axis has grown the layout is read until it shows that, with a
recalculation behind each read that does not (`Settling`). The number of these reads is that of
`Tries`. A resolution ends with an error exactly when one of the reads fails
(`Resolution.fails_iff`).

Each step has a lemma that gives its exchanges. That of an axis is `growAxis_asks`, which plans it
and grows the frame; that of the reads is `settleFrom_asks`, by induction on the reads that are
left.
-/

set_option autoImplicit false
set_option relaxedAutoImplicit false

namespace PageCapture

variable {σ : Type}

/-! ### Reading until the layout has settled -/

/-- A read of the layout that is the last one: it fails, or every side that was resized differs from
what it was. -/
def LayoutSettled (initial : Size) (wide high : Bool) (reply : Except HostError LayoutMetrics) :
    Prop :=
  ∀ metrics, reply = .ok metrics →
    (wide = true → metrics.client.width ≠ initial.width) ∧
      (high = true → metrics.client.height ≠ initial.height)

theorem layoutSettled_error {initial : Size} {wide high : Bool} {error : HostError} :
    LayoutSettled initial wide high (.error error) := by
  intro metrics hread
  cases hread

theorem layoutSettled_ok_iff {initial : Size} {wide high : Bool} {metrics : LayoutMetrics} :
    LayoutSettled initial wide high (.ok metrics) ↔
      ((!wide || metrics.client.width != initial.width) &&
        (!high || metrics.client.height != initial.height)) = true := by
  have hside : ∀ (resized : Bool) (now before : Int32),
      (resized = true → now ≠ before) ↔ (!resized || now != before) = true := by
    intro resized now before
    cases resized <;> simp
  rw [Bool.and_eq_true, ← hside, ← hside]
  constructor
  · intro hsettled
    exact hsettled metrics rfl
  · intro hsides read hread
    cases hread
    exact hsides

/-- The exchanges of reading the layout until it has settled. Each read that shows an old side is
followed by a recalculation, whose reply does not matter; all but the first are forced. -/
inductive Settling (canvas : Canvas) (initial : Size) (wide high : Bool) :
    (force : Bool) → List (Except HostError LayoutMetrics) → List Exchange → Prop
  | spent {force : Bool} : Settling canvas initial wide high force [] []
  | settled {force : Bool} {reply : Except HostError LayoutMetrics}
      (hsettled : LayoutSettled initial wide high reply) :
    Settling canvas initial wide high force [reply] [.metrics canvas reply]
  | stale {force : Bool} {reply : Except HostError LayoutMetrics}
      {recalculated : Except HostError Unit} {rest : List (Except HostError LayoutMetrics)}
      {since : List Exchange} (hstale : ¬ LayoutSettled initial wide high reply)
      (hrest : Settling canvas initial wide high true rest since) :
    Settling canvas initial wide high force (reply :: rest)
      (.metrics canvas reply :: .forceRecalculate force recalculated :: since)

/-- The client area that some reads end with, if the last one has not failed; without a read it is
the one known before. -/
def lastClient (client : Size) (reads : List (Except HostError LayoutMetrics)) :
    Except CaptureError Size :=
  match reads.getLast? with
  | none => .ok client
  | some (.ok metrics) => .ok metrics.client
  | some (.error error) => .error (.ofHostError error)

theorem lastClient_cons (client : Size) (metrics : LayoutMetrics)
    (rest : List (Except HostError LayoutMetrics)) :
    lastClient client (.ok metrics :: rest) = lastClient metrics.client rest := by
  unfold lastClient
  rw [List.getLast?_cons]
  rcases rest.getLast? with _ | (error | last) <;> rfl

/-- The reads end with an error exactly when there is a failed one among them. -/
theorem Settling.fails_iff {canvas : Canvas} {initial : Size} {wide high force : Bool}
    {reads : List (Except HostError LayoutMetrics)} {since : List Exchange}
    (hsettling : Settling canvas initial wide high force reads since) (client : Size) :
    (∃ error, lastClient client reads = .error error) ↔
      ∃ error, .metrics canvas (.error error) ∈ since := by
  induction hsettling generalizing client with
  | spent => simp [lastClient]
  | @settled force reply hsettled => cases reply <;> simp [lastClient]
  | @stale force reply recalculated rest since hstale hrest ih =>
    cases reply with
    | error error => exact absurd layoutSettled_error hstale
    | ok metrics =>
      rw [lastClient_cons, ih metrics.client]
      simp

/-! ### Resolutions -/

/-- What a resolution finds out, given its two plans, the client area before and the one settled on.
Where the latter is empty the planned view stands for it. -/
def AxisPlan.resolved (width height : AxisPlan) (initialClient settled : Size) :
    ResolvedViewport where
  dimensions := {
    window := ⟨width.targetWindow, height.targetWindow⟩
    view := ⟨width.targetView, height.targetView⟩
    client := if settled.width < 1 ∨ settled.height < 1 then
      ⟨width.targetView, height.targetView⟩ else settled }
  initialClient
  resized := width.needsResize || height.needsResize

/-- The exchanges of a resolution and the end that it comes to. -/
inductive Resolution (session : ResizeSession) (options : CaptureOptions) (canvas : Canvas)
    (view : Size) : List Exchange → Except CaptureError ResolvedViewport → Prop
  | unread (error : HostError) :
    Resolution session options canvas view [.metrics canvas (.error error)]
      (.error (.ofHostError error))
  | unreadBehind {initial : LayoutMetrics} {width : AxisPlan} {widening : List Exchange}
      (hwidth : width.Meets
        ⟨session.initial.width, view.width, initial.client.width, initial.scroll.width⟩
        options.maxDimension 0)
      (hwidening : Growing session ⟨width.targetWindow, session.initial.height⟩ width.needsResize
        widening)
      (error : HostError) :
    Resolution session options canvas view
      ([.metrics canvas (.ok initial)] ++ widening ++ [.metrics canvas (.error error)])
      (.error (.ofHostError error))
  | read {initial afterWidth : LayoutMetrics} {width height : AxisPlan}
      {widening heightening settling : List Exchange}
      {reads : List (Except HostError LayoutMetrics)}
      (hwidth : width.Meets
        ⟨session.initial.width, view.width, initial.client.width, initial.scroll.width⟩
        options.maxDimension 0)
      (hwidening : Growing session ⟨width.targetWindow, session.initial.height⟩ width.needsResize
        widening)
      (hheight : height.Meets
        ⟨session.initial.height, view.height, afterWidth.client.height, afterWidth.scroll.height⟩
        options.maxDimension (if 0 < width.scrollbar then options.scrollbarRetention else 0))
      (hheightening : Growing (session.grown width.needsResize)
        ⟨width.targetWindow, height.targetWindow⟩ height.needsResize heightening)
      (hsettling : Settling canvas ⟨initial.client.width, afterWidth.client.height⟩
        width.needsResize height.needsResize false reads settling)
      (hreads : if width.needsResize || height.needsResize then
        Tries (LayoutSettled ⟨initial.client.width, afterWidth.client.height⟩
          width.needsResize height.needsResize) 2 reads else reads = []) :
    Resolution session options canvas view
      ([.metrics canvas (.ok initial)] ++ widening ++ [.metrics canvas (.ok afterWidth)] ++
        heightening ++ settling)
      ((lastClient ⟨initial.client.width, afterWidth.client.height⟩ reads).map
        (width.resolved height ⟨initial.client.width, afterWidth.client.height⟩))

/-- A resolution ends with an error exactly when one of its reads of the layout fails. -/
theorem Resolution.fails_iff {session : ResizeSession} {options : CaptureOptions} {canvas : Canvas}
    {view : Size} {exchanges : List Exchange} {ended : Except CaptureError ResolvedViewport}
    (hresolution : Resolution session options canvas view exchanges ended) :
    (∃ error, ended = .error error) ↔ ∃ error, .metrics canvas (.error error) ∈ exchanges := by
  cases hresolution with
  | unread error => exact iff_of_true ⟨_, rfl⟩ ⟨error, List.mem_singleton.mpr rfl⟩
  | unreadBehind hwidth hwidening error =>
    exact iff_of_true ⟨_, rfl⟩ ⟨error, List.mem_append_right _ (List.mem_singleton.mpr rfl)⟩
  | @read initial afterWidth width height widening heightening settling reads hwidth hwidening
      hheight hheightening hsettling hreads =>
    have hfails := hsettling.fails_iff ⟨initial.client.width, afterWidth.client.height⟩
    have hwiden := hwidening.not_mem canvas
    have hheighten := hheightening.not_mem canvas
    rcases hlast : lastClient ⟨initial.client.width, afterWidth.client.height⟩ reads
      with error | settled
    · rw [hlast] at hfails
      obtain ⟨failed, hmem⟩ := hfails.mp ⟨error, rfl⟩
      exact iff_of_true ⟨error, rfl⟩ ⟨failed, List.mem_append_right _ hmem⟩
    · rw [hlast] at hfails
      have hnone : ¬ ∃ error, .metrics canvas (.error error) ∈ settling :=
        fun hfailed ↦ nomatch hfails.mpr hfailed
      refine iff_of_false (by simp [Except.map]) ?_
      rintro ⟨error, hmem⟩
      simp only [List.mem_append, List.mem_singleton, Exchange.metrics.injEq, reduceCtorEq,
        and_false, false_or, or_false] at hmem
      rcases hmem with (hmem | hmem) | hmem
      · exact hwiden _ hmem
      · exact hheighten _ hmem
      · exact hnone ⟨error, hmem⟩

/-! ### The steps of a resolution -/

/-- Planning an axis, where what follows does not end with an overflow: there is a plan, and it is
what it has to be. -/
theorem results_bind_planAxis {α : Type} {input : AxisInput} {limit retention : Int32}
    (hretention : 0 ≤ retention.toInt) {next : AxisPlan → Attempt σ α} {held : Held σ}
    (hrange : ∀ operation,
      (Action.results (Attempt.check (planAxis input limit retention) >>= next).run held).1 ≠
        .error (.overflow operation)) :
    ∃ plan : AxisPlan, plan.Meets input limit retention ∧
      Action.results (Attempt.check (planAxis input limit retention) >>= next).run held =
        Action.results (next plan).run held := by
  rw [Attempt.results_bind, Attempt.results_check] at hrange ⊢
  rcases hplan : planAxis input limit retention with fault | plan
  · obtain ⟨operation, rfl⟩ := planAxis_onlyOverflows _ _ _ fault hplan
    rw [hplan] at hrange
    exact absurd rfl (hrange operation)
  · exact ⟨plan, planAxis_meets hretention hplan, rfl⟩

theorem mapError_ok {ε ε' α : Type} (change : ε → ε') (value : α) :
    Except.mapError change (.ok value) = .ok value :=
  rfl

section Responsive

variable {host : Host σ} (hhost : host.Responsive)

include hhost

/-- Reading the layout under a session. -/
theorem ask_metrics_asks (canvas : Canvas) (session : ResizeSession) (transcript : Transcript σ) :
    ∃ reply state, Action.results (Attempt.ask (host.transcribed.metrics canvas)).run
        ⟨session, transcript⟩ =
      (.ok (Except.mapError .ofHostError reply),
        ⟨session, ⟨state, transcript.exchanges ++ [.metrics canvas reply]⟩⟩) := by
  obtain ⟨reply, state, hread⟩ := Transcript.results_noting (.metrics canvas)
    (hhost.metrics canvas) transcript
  refine ⟨reply, state, ?_⟩
  rw [Attempt.results_ask, show (host.transcribed.metrics canvas).results transcript = _ from hread]
  rfl

/-- Reading the layout until it has settled. -/
theorem settleFrom_asks (canvas : Canvas) (initial : Size) (wide high : Bool) (attempts : Nat)
    (force : Bool) (client : Size) (session : ResizeSession) (transcript : Transcript σ) :
    ∃ reads since state, Settling canvas initial wide high force reads since ∧
      Tries (LayoutSettled initial wide high) attempts reads ∧
      Action.results (settleFrom host.transcribed.toDisplayedDocument canvas initial wide high
          attempts force client).run ⟨session, transcript⟩ =
        (.ok (lastClient client reads),
          ⟨session, ⟨state, transcript.exchanges ++ since⟩⟩) := by
  induction attempts generalizing force client transcript with
  | zero =>
    refine ⟨[], [], transcript.host, .spent, .spent, ?_⟩
    rw [List.append_nil]
    rfl
  | succ attempts ih =>
    obtain ⟨reply, read, hread⟩ := ask_metrics_asks hhost canvas session transcript
    unfold settleFrom
    rw [Attempt.results_bind, hread]
    cases reply with
    | error error =>
      exact ⟨[.error error], [.metrics canvas (.error error)], read, .settled layoutSettled_error,
        .accepted layoutSettled_error, rfl⟩
    | ok metrics =>
      simp only [mapError_ok]
      by_cases hsettled : LayoutSettled initial wide high (.ok metrics)
      · rw [if_pos (layoutSettled_ok_iff.mp hsettled)]
        exact ⟨[.ok metrics], [.metrics canvas (.ok metrics)], read, .settled hsettled,
          .accepted hsettled, rfl⟩
      · rw [if_neg (mt layoutSettled_ok_iff.mpr hsettled)]
        obtain ⟨recalculated, forced, hforced⟩ := Transcript.results_noting
          (.forceRecalculate force) (hhost.forceRecalculate force)
          ⟨read, transcript.exchanges ++ [.metrics canvas (.ok metrics)]⟩
        obtain ⟨rest, since, state, hsettling, htries, hends⟩ := ih true metrics.client
          ⟨forced, transcript.exchanges ++ [.metrics canvas (.ok metrics)] ++
            [.forceRecalculate force recalculated]⟩
        refine ⟨_, .metrics canvas (.ok metrics) :: .forceRecalculate force recalculated :: since,
          state, .stale hsettled hsettling, .refused hsettled htries, ?_⟩
        rw [Attempt.results_bind, Attempt.results_act, Attempt.results_asking,
          show (host.transcribed.forceRecalculate force).results _ = _ from hforced]
        simp only [Except.map]
        rw [hends, lastClient_cons]
        simp

/-- Planning an axis and growing the frame to what the plan wants, where what follows does not end
with an overflow. -/
theorem growAxis_asks {α : Type} {input : AxisInput} {limit retention : Int32}
    (hretention : 0 ≤ retention.toInt) (frame : AxisPlan → Size)
    {next : AxisPlan → Attempt (Transcript σ) α} {session : ResizeSession}
    (hleft : session.demaximized = true → session.wasMaximized = true)
    {transcript : Transcript σ}
    (hrange : ∀ operation,
      (Action.results (Attempt.check (planAxis input limit retention) >>= fun plan ↦
          growTo host.transcribed.toWindowSystem plan.needsResize (frame plan) >>= fun _ ↦
            next plan).run ⟨session, transcript⟩).1 ≠ .error (.overflow operation)) :
    ∃ (plan : AxisPlan) (growing : List Exchange) (state : σ), plan.Meets input limit retention ∧
      Growing session (frame plan) plan.needsResize growing ∧
      Action.results (Attempt.check (planAxis input limit retention) >>= fun plan ↦
          growTo host.transcribed.toWindowSystem plan.needsResize (frame plan) >>= fun _ ↦
            next plan).run ⟨session, transcript⟩ =
        Action.results (next plan).run
          ⟨session.grown plan.needsResize, ⟨state, transcript.exchanges ++ growing⟩⟩ := by
  obtain ⟨plan, hplan, hplanned⟩ := results_bind_planAxis hretention hrange
  obtain ⟨growing, state, hgrowing, hgrown⟩ := growTo_asks hhost plan.needsResize (frame plan) hleft
    transcript
  refine ⟨plan, growing, state, hplan, hgrowing, ?_⟩
  rw [hplanned, Attempt.results_bind, hgrown]

/-- Where nothing was resized, nothing is read. -/
theorem settleClientSize_asks (canvas : Canvas) (initial : Size) (wide high : Bool)
    (session : ResizeSession) (transcript : Transcript σ) :
    ∃ reads since state, Settling canvas initial wide high false reads since ∧
      (if wide || high then Tries (LayoutSettled initial wide high) 2 reads else reads = []) ∧
      Action.results (settleClientSize host.transcribed.toDisplayedDocument canvas initial wide
          high).run ⟨session, transcript⟩ =
        (.ok (lastClient initial reads),
          ⟨session, ⟨state, transcript.exchanges ++ since⟩⟩) := by
  unfold settleClientSize
  by_cases hgrew : (wide || high) = true
  · have hsome : ¬ (!wide && !high) = true := by
      rw [← Bool.not_or, hgrew]
      exact Bool.false_ne_true
    rw [if_neg hsome]
    simp only [hgrew, if_true]
    exact settleFrom_asks hhost canvas initial wide high settleAttempts false initial session
      transcript
  · have hneither : (!wide && !high) = true := by
      rw [Bool.not_eq_true] at hgrew
      rw [← Bool.not_or, hgrew]
      rfl
    rw [if_pos hneither]
    refine ⟨[], [], transcript.host, .spent, by rw [if_neg hgrew], ?_⟩
    rw [List.append_nil]
    rfl

/-- What a resolution asks, and how it ends. Assumes: a host that answers every call, with whatever
reply, and a session that has not changed the window; a retention that is not negative; and no
overflow. The exchanges and the end are those of a `Resolution`, and the end is an error exactly
when one of the reads of the layout has failed. -/
theorem resolveViewport_asks (options : CaptureOptions)
    (hretention : 0 ≤ options.scrollbarRetention.toInt) {session : ResizeSession}
    (hfresh : session.isMutated = false) (canvas : Canvas) (view : Size) (start : Transcript σ)
    (hrange : ∀ operation,
      (Action.results (resolveViewport host.transcribed.toWindowSystem
        host.transcribed.toDisplayedDocument options canvas view).run ⟨session, start⟩).1 ≠
          .error (.overflow operation)) :
    ∃ exchanges ended last,
      Action.results (resolveViewport host.transcribed.toWindowSystem
          host.transcribed.toDisplayedDocument options canvas view).run ⟨session, start⟩ =
        (.ok ended, last) ∧
      last.host.exchanges = start.exchanges ++ exchanges ∧
      Resolution session options canvas view exchanges ended ∧
      ((∃ error, ended = .error error) ↔ ∃ error, .metrics canvas (.error error) ∈ exchanges) := by
  suffices hresolution : ∃ exchanges ended last,
      Action.results (resolveViewport host.transcribed.toWindowSystem
          host.transcribed.toDisplayedDocument options canvas view).run ⟨session, start⟩ =
        (.ok ended, last) ∧
      last.host.exchanges = start.exchanges ++ exchanges ∧
      Resolution session options canvas view exchanges ended by
    obtain ⟨exchanges, ended, last, hends, hsince, hresolution⟩ := hresolution
    exact ⟨exchanges, ended, last, hends, hsince, hresolution, hresolution.fails_iff⟩
  rw [ResizeSession.isMutated, Bool.or_eq_false_iff] at hfresh
  have hcurrent : Action.results (Attempt.act Held.current).run ⟨session, start⟩ =
      (.ok (.ok session), ⟨session, start⟩) := by
    rw [Attempt.results_act, Held.current, Action.results_inspect]
    rfl
  obtain ⟨first, state, hfirst⟩ := ask_metrics_asks hhost canvas session start
  unfold resolveViewport at hrange ⊢
  rw [Attempt.results_bind, hcurrent] at hrange ⊢
  simp only at hrange ⊢
  rw [Attempt.results_bind, hfirst] at hrange ⊢
  rcases first with error | initial
  · exact ⟨_, _, _, rfl, rfl, .unread error⟩
  simp only [mapError_ok] at hrange ⊢
  obtain ⟨width, widening, widened, hwidth, hwidening, hwiden⟩ := growAxis_asks hhost (by decide)
    (fun plan ↦ ⟨plan.targetWindow, session.initial.height⟩) (by simp [hfresh.1]) hrange
  rw [hwiden] at hrange ⊢
  obtain ⟨second, between, hsecond⟩ := ask_metrics_asks hhost canvas
    (session.grown width.needsResize)
    ⟨widened, start.exchanges ++ [.metrics canvas (.ok initial)] ++ widening⟩
  rw [Attempt.results_bind, hsecond] at hrange ⊢
  rcases second with error | afterWidth
  · refine ⟨_, _, _, rfl, ?_, .unreadBehind hwidth hwidening error⟩
    simp only [List.append_assoc]
  simp only [mapError_ok] at hrange ⊢
  have hkept : 0 ≤ (if 0 < width.scrollbar then options.scrollbarRetention else 0).toInt := by
    split
    · exact hretention
    · exact Int.le_refl 0
  have hleft : (session.grown width.needsResize).demaximized = true →
      (session.grown width.needsResize).wasMaximized = true := by
    cases width.needsResize <;> simp [ResizeSession.grown, hfresh.1]
  obtain ⟨height, heightening, heightened, hheight, hheightening, hheighten⟩ := growAxis_asks hhost
    hkept (fun plan ↦ ⟨width.targetWindow, plan.targetWindow⟩) hleft hrange
  rw [hheighten]
  obtain ⟨reads, settling, last, hsettling, hreads, hsettle⟩ := settleClientSize_asks hhost canvas
    ⟨initial.client.width, afterWidth.client.height⟩ width.needsResize height.needsResize
    ((session.grown width.needsResize).grown height.needsResize)
    ⟨heightened, start.exchanges ++ [.metrics canvas (.ok initial)] ++ widening ++
      [.metrics canvas (.ok afterWidth)] ++ heightening⟩
  rw [Attempt.results_bind, hsettle]
  have hresolution := Resolution.read hwidth hwidening hheight hheightening hsettling hreads
  rcases hclient : lastClient ⟨initial.client.width, afterWidth.client.height⟩ reads
    with error | settled
  · rw [hclient] at hresolution
    refine ⟨_, _, _, rfl, ?_, hresolution⟩
    simp only [List.append_assoc]
  · rw [hclient] at hresolution
    refine ⟨_, _, _, rfl, ?_, hresolution⟩
    simp only [List.append_assoc]

end Responsive

/-- The law for the first resolution of a page that is longer than its maximized window. The layout
never shows that the frame has grown, so it is read twice behind the growth. -/
theorem resolveViewport_asks_longPage :
    (∃ exchanges ended last,
      Action.results (resolveViewport Host.longPage.transcribed.toWindowSystem
          Host.longPage.transcribed.toDisplayedDocument {} .documentElement ⟨8, 4⟩).run
          ⟨⟨⟨1⟩, ⟨8, 4⟩, true, false, false⟩, ⟨(), []⟩⟩ = (.ok ended, last) ∧
      last.host.exchanges = exchanges ∧
      Resolution ⟨⟨1⟩, ⟨8, 4⟩, true, false, false⟩ {} .documentElement ⟨8, 4⟩ exchanges ended ∧
      ((∃ error, ended = .error error) ↔
        ∃ error, .metrics .documentElement (.error error) ∈ exchanges)) ∧
    (Action.results (resolveViewport Host.longPage.transcribed.toWindowSystem
        Host.longPage.transcribed.toDisplayedDocument {} .documentElement ⟨8, 4⟩).run
        ⟨⟨⟨1⟩, ⟨8, 4⟩, true, false, false⟩, ⟨(), []⟩⟩).2.host.exchanges.filterMap Exchange.call? =
      [.metrics .documentElement, .metrics .documentElement, .showRestored ⟨1⟩,
        .setWindowSize ⟨1⟩ ⟨8, 7⟩, .windowSize ⟨1⟩, .metrics .documentElement,
        .forceRecalculate false, .metrics .documentElement, .forceRecalculate true] := by
  refine ⟨?_, by decide +kernel⟩
  refine resolveViewport_asks Host.longPage_responsive {} (by decide) rfl .documentElement ⟨8, 4⟩
    ⟨(), []⟩ ?_
  intro operation hfault
  cases hfault

end PageCapture
