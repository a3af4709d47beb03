import PageCapture.Host.Basic
import PageCapture.Proofs.Action.Contract

/-!
# Transcripts

The list of calls that a recorded host keeps says what was asked. What a host does in return is up
to it, and a law of a computation in front of any host has to speak of the replies too: whether a
window *was said* to be maximized, which size *was read*. `Host.transcribed` is the host that keeps
every exchange, the call with its reply and the first one in front, beside the state of the host
that gives the replies. It leaves no call out, the questions included that a recording passes over.

A host may give any reply at any time. What is asked of it here is only that it gives one:
`Host.Responsive` says that no call ends with a fault. `Transcript.results_noting` is what
a call to such a host comes to: there is some reply, and the transcript grows by the exchange.
`Action.Only` limits the exchanges of an action to some kinds; the rules for it are those of
actions.
-/

set_option autoImplicit false
set_option relaxedAutoImplicit false

namespace PageCapture

variable {σ α β : Type}

/-- A call to a host and the reply that it got. -/
inductive Exchange where
  | windowSize (handle : WindowHandle) (reply : Except HostError Size)
  | setWindowSize (handle : WindowHandle) (size : Size) (reply : Except HostError Unit)
  | isMaximized (handle : WindowHandle) (reply : Bool)
  | showRestored (handle : WindowHandle)
  | maximize (handle : WindowHandle)
  | pixelFormat (reply : PixelFormat)
  | print (handle : WindowHandle) (bitmap : Bitmap) (reply : Except HostError Unit × Bitmap)
  | redraw (handle : WindowHandle)
  | isStandardsMode (reply : Bool)
  | hasElement (canvas : Canvas) (reply : Bool)
  | metrics (canvas : Canvas) (reply : Except HostError LayoutMetrics)
  | forceRecalculate (force : Bool) (reply : Except HostError Unit)
  | topLevelWindow (reply : Option WindowHandle)
  | contentWindow (reply : Option WindowHandle)
  | hasDocument (reply : Bool)

/-- The call of an exchange, as a recording lists it. -/
def Exchange.call? : Exchange → Option Call
  | windowSize handle _ => some (.windowSize handle)
  | setWindowSize handle size _ => some (.setWindowSize handle size)
  | isMaximized handle _ => some (.isMaximized handle)
  | showRestored handle => some (.showRestored handle)
  | maximize handle => some (.maximize handle)
  | print handle bitmap _ => some (.print handle bitmap.width bitmap.height)
  | redraw handle => some (.redraw handle)
  | metrics canvas _ => some (.metrics canvas)
  | forceRecalculate force _ => some (.forceRecalculate force)
  | pixelFormat _ | isStandardsMode _ | hasElement .. | topLevelWindow _ | contentWindow _
  | hasDocument _ => none

/-- Whether an exchange is about which windows and which document the host displays, and not a call
to its windows or its layout. -/
def Exchange.isSurvey : Exchange → Bool
  | topLevelWindow _ | contentWindow _ | hasDocument _ | isStandardsMode _ | hasElement .. => true
  | _ => false

/-- The calls among some exchanges that change the geometry of a window, in order. -/
def geometryCalls (exchanges : List Exchange) : List Call :=
  (exchanges.filterMap Exchange.call?).filter Call.changesGeometry

@[simp]
theorem geometryCalls_nil : geometryCalls [] = [] :=
  rfl

@[simp]
theorem geometryCalls_append (front back : List Exchange) :
    geometryCalls (front ++ back) = geometryCalls front ++ geometryCalls back := by
  simp [geometryCalls]

/-- Exchanges none of which changes the geometry do not change it together. -/
theorem geometryCalls_eq_nil {exchanges : List Exchange}
    (hnone : ∀ exchange ∈ exchanges, geometryCalls [exchange] = []) :
    geometryCalls exchanges = [] := by
  induction exchanges with
  | nil => rfl
  | cons exchange rest ih =>
    rw [List.forall_mem_cons] at hnone
    rw [← List.singleton_append, geometryCalls_append, hnone.1, ih hnone.2, List.append_nil]

/-- The state of a host and the exchanges with it, the first one in front. -/
structure Transcript (σ : Type) where
  host : σ
  exchanges : List Exchange := []

namespace Transcript

/-- Makes a call and keeps the exchange. -/
def noting (exchange : α → Exchange) (action : Action σ α) : Action (Transcript σ) α :=
  Action.ofResults fun transcript ↦
    match action.results transcript.host with
    | (.ok reply, host) => (.ok reply, ⟨host, transcript.exchanges ++ [exchange reply]⟩)
    | (.error fault, host) => (.error fault, { transcript with host })

end Transcript

/-- The host that keeps the exchanges with another. -/
def Host.transcribed (host : Host σ) : Host (Transcript σ) where
  windowSize handle := Transcript.noting (.windowSize handle) (host.windowSize handle)
  setWindowSize handle size :=
    Transcript.noting (.setWindowSize handle size) (host.setWindowSize handle size)
  isMaximized handle := Transcript.noting (.isMaximized handle) (host.isMaximized handle)
  showRestored handle :=
    Transcript.noting (fun _ ↦ .showRestored handle) (host.showRestored handle)
  maximize handle := Transcript.noting (fun _ ↦ .maximize handle) (host.maximize handle)
  pixelFormat := Transcript.noting .pixelFormat host.pixelFormat
  print handle bitmap := Transcript.noting (.print handle bitmap) (host.print handle bitmap)
  redraw handle := Transcript.noting (fun _ ↦ .redraw handle) (host.redraw handle)
  isStandardsMode := Transcript.noting .isStandardsMode host.isStandardsMode
  hasElement canvas := Transcript.noting (.hasElement canvas) (host.hasElement canvas)
  metrics canvas := Transcript.noting (.metrics canvas) (host.metrics canvas)
  forceRecalculate force :=
    Transcript.noting (.forceRecalculate force) (host.forceRecalculate force)
  topLevelWindow := Transcript.noting .topLevelWindow host.topLevelWindow
  contentWindow := Transcript.noting .contentWindow host.contentWindow
  hasDocument := Transcript.noting .hasDocument host.hasDocument

/-- An action that always ends with a value. -/
def Action.Answers (action : Action σ α) : Prop :=
  ∀ state, ∃ reply last, action.results state = (.ok reply, last)

/-- A host none of whose calls ends with a fault. Its replies may be any. -/
structure Host.Responsive (host : Host σ) : Prop where
  windowSize : ∀ handle, (host.windowSize handle).Answers
  setWindowSize : ∀ handle size, (host.setWindowSize handle size).Answers
  isMaximized : ∀ handle, (host.isMaximized handle).Answers
  showRestored : ∀ handle, (host.showRestored handle).Answers
  maximize : ∀ handle, (host.maximize handle).Answers
  pixelFormat : host.pixelFormat.Answers
  print : ∀ handle bitmap, (host.print handle bitmap).Answers
  redraw : ∀ handle, (host.redraw handle).Answers
  isStandardsMode : host.isStandardsMode.Answers
  hasElement : ∀ canvas, (host.hasElement canvas).Answers
  metrics : ∀ canvas, (host.metrics canvas).Answers
  forceRecalculate : ∀ force, (host.forceRecalculate force).Answers
  topLevelWindow : host.topLevelWindow.Answers
  contentWindow : host.contentWindow.Answers
  hasDocument : host.hasDocument.Answers

/-- A host that always gives the same replies: a maximized window shows a page that is longer than
its client area, and drawing leaves the bitmap as it is. -/
def Host.longPage : Host Unit where
  windowSize _ := return .ok ⟨8, 4⟩
  setWindowSize _ _ := return .ok ()
  isMaximized _ := return true
  showRestored _ := return
  maximize _ := return
  pixelFormat := return .bgra
  print _ bitmap := return (.ok (), bitmap)
  redraw _ := return
  isStandardsMode := return true
  hasElement _ := return true
  metrics _ := return .ok ⟨⟨7, 4⟩, ⟨7, 9⟩⟩
  forceRecalculate _ := return .ok ()
  topLevelWindow := return some ⟨1⟩
  contentWindow := return some ⟨2⟩
  hasDocument := return true

theorem Host.longPage_responsive : Host.longPage.Responsive := by
  constructor <;> intros <;> exact fun state ↦ ⟨_, state, rfl⟩

/-- A transcribed call that is answered: there is some reply, and the exchange is kept. -/
theorem Transcript.results_noting (exchange : α → Exchange) {action : Action σ α}
    (hanswers : action.Answers) (transcript : Transcript σ) :
    ∃ reply host, (noting exchange action).results transcript =
      (.ok reply, ⟨host, transcript.exchanges ++ [exchange reply]⟩) := by
  obtain ⟨reply, host, hends⟩ := hanswers transcript.host
  refine ⟨reply, host, ?_⟩
  simp only [noting, Action.results_ofResults, hends]

/-! ### What an action may ask -/

/-- All exchanges of an action are allowed ones, whichever way the action ends. -/
def Action.Only (allowed : Exchange → Prop) (action : Action (Transcript σ) α) : Prop :=
  ∀ transcript, ∃ since, (action.results transcript).2.exchanges = transcript.exchanges ++ since ∧
    ∀ exchange ∈ since, allowed exchange

theorem Action.only_noting {allowed : Exchange → Prop} {exchange : α → Exchange}
    {action : Action σ α} (hanswers : action.Answers)
    (hallowed : ∀ reply, allowed (exchange reply)) :
    Action.Only allowed (Transcript.noting exchange action) := by
  intro transcript
  obtain ⟨reply, host, hends⟩ := Transcript.results_noting exchange hanswers transcript
  refine ⟨[exchange reply], by rw [hends], ?_⟩
  simpa using hallowed reply

theorem Action.only_of_still {allowed : Exchange → Prop} {action : Action (Transcript σ) α}
    (hstill : ∀ transcript, (action.results transcript).2 = transcript) : action.Only allowed :=
  fun transcript ↦ ⟨[], by simp [hstill], by simp⟩

theorem Action.Only.bind {allowed : Exchange → Prop} {action : Action (Transcript σ) α}
    {next : α → Action (Transcript σ) β} (hfirst : action.Only allowed)
    (hnext : ∀ value, (next value).Only allowed) : (action >>= next).Only allowed := by
  intro transcript
  obtain ⟨since, hsince, hallowed⟩ := hfirst transcript
  rw [Action.bind_results]
  generalize action.results transcript = ends at hsince
  rcases ends with ⟨_ | value, middle⟩
  · exact ⟨since, hsince, hallowed⟩
  · obtain ⟨more, hmore, hlater⟩ := hnext value middle
    refine ⟨since ++ more, ?_, ?_⟩
    · exact hmore.trans (by rw [show middle.exchanges = _ from hsince, List.append_assoc])
    · intro exchange hexchange
      exact (List.mem_append.mp hexchange).elim (hallowed exchange) (hlater exchange)

end PageCapture
