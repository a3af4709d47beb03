import PageCapture.Proofs.Host.SideBySide
import PageCapture.Proofs.Host.Transcript

/-!
# Hosts that track others

A host over richer states tracks another one when a view of its states turns each of its calls into
the call of the other: the replies are the same, and so are the states in view. `Action.Tracks` says
that of actions and `Host.Tracks` of all calls of a host.

A capture sees replies only, so tracking goes through the whole of it: the states and their views
are an alignment (`Alignment.viewing`), and `takeScreenshot_tracks` says that a request to a host
ends as one to the host that it tracks. `Host.transcribed_tracks` makes this a statement on
transcripts: keeping the exchanges changes nothing.
-/

set_option autoImplicit false
set_option relaxedAutoImplicit false

namespace PageCapture

variable {σ τ α β : Type}

/-! ### Actions -/

/-- An action ends as another one does on the states in view. -/
def Action.Tracks (view : τ → σ) (tracking : Action τ α) (action : Action σ α) : Prop :=
  ∀ state, action.results (view state) =
    ((tracking.results state).1, view (tracking.results state).2)

/-- The view of a state under a session. -/
def Held.viewed (view : τ → σ) (held : Held τ) : Held σ :=
  ⟨held.session, view held.host⟩

/-- The alignment of states with their views. -/
def Alignment.viewing (view : τ → σ) : Alignment τ σ where
  holds one other := other = view one
  fallen one other := other = view one
  lenient := True
  fallen_of_holds _ _ _ hholds := hholds

variable {view : τ → σ}

/-- Tracking is agreement on the states in view. -/
theorem Action.tracks_iff {tracking : Action τ α} {action : Action σ α} :
    tracking.Tracks view action ↔
      (Alignment.viewing view).Agree (fun _ ↦ True) tracking action := by
  constructor
  · rintro htracks one other rfl
    rw [htracks one]
    refine ⟨rfl, ?_⟩
    cases (tracking.results one).1 with
    | error fault => exact rfl
    | ok value => exact ⟨rfl, trivial⟩
  · intro hagree state
    obtain ⟨hends, hleaves⟩ := hagree state (view state) rfl
    refine Prod.ext hends ?_
    cases hended : (tracking.results state).1 with
    | error fault =>
      rw [hended] at hleaves
      exact hleaves
    | ok value =>
      rw [hended] at hleaves
      exact hleaves.1

theorem Action.Tracks.bind {tracking : Action τ α} {action : Action σ α}
    {trackingNext : α → Action τ β} {next : α → Action σ β} (hfirst : tracking.Tracks view action)
    (hnext : ∀ value, (trackingNext value).Tracks view (next value)) :
    Action.Tracks view (tracking >>= trackingNext) (action >>= next) :=
  tracks_iff.mpr ((tracks_iff.mp hfirst).bind fun value _ ↦ tracks_iff.mp (hnext value))

/-- What is asked of a host under a session. -/
theorem Held.tracks_asking {tracking : Action τ α} {action : Action σ α}
    (hask : tracking.Tracks view action) :
    (Held.asking tracking).Tracks (Held.viewed view) (Held.asking action) := by
  intro held
  rw [Attempt.results_asking, Attempt.results_asking, Held.viewed, hask held.host]
  rfl

/-! ### Hosts -/

/-- Each call of a host is tracked. -/
structure Host.Tracks (view : τ → σ) (tracking : Host τ) (host : Host σ) : Prop where
  windowSize : ∀ handle, (tracking.windowSize handle).Tracks view (host.windowSize handle)
  setWindowSize : ∀ handle size,
    (tracking.setWindowSize handle size).Tracks view (host.setWindowSize handle size)
  isMaximized : ∀ handle, (tracking.isMaximized handle).Tracks view (host.isMaximized handle)
  showRestored : ∀ handle, (tracking.showRestored handle).Tracks view (host.showRestored handle)
  maximize : ∀ handle, (tracking.maximize handle).Tracks view (host.maximize handle)
  pixelFormat : tracking.pixelFormat.Tracks view host.pixelFormat
  print : ∀ handle bitmap,
    (tracking.print handle bitmap).Tracks view (host.print handle bitmap)
  redraw : ∀ handle, (tracking.redraw handle).Tracks view (host.redraw handle)
  isStandardsMode : tracking.isStandardsMode.Tracks view host.isStandardsMode
  hasElement : ∀ canvas, (tracking.hasElement canvas).Tracks view (host.hasElement canvas)
  metrics : ∀ canvas, (tracking.metrics canvas).Tracks view (host.metrics canvas)
  forceRecalculate : ∀ force,
    (tracking.forceRecalculate force).Tracks view (host.forceRecalculate force)
  topLevelWindow : tracking.topLevelWindow.Tracks view host.topLevelWindow
  contentWindow : tracking.contentWindow.Tracks view host.contentWindow
  hasDocument : tracking.hasDocument.Tracks view host.hasDocument

theorem Transcript.noting_tracks (exchange : α → Exchange) (action : Action σ α) :
    (noting exchange action).Tracks Transcript.host action := by
  intro transcript
  simp only [noting, Action.results_ofResults]
  rcases action.results transcript.host with ⟨_ | _, _⟩ <;> rfl

/-- A host whose exchanges are kept tracks that host. -/
theorem Host.transcribed_tracks (host : Host σ) : host.transcribed.Tracks Transcript.host host := by
  constructor <;> intros <;> exact Transcript.noting_tracks _ _

/-! ### Captures -/

section Capture

variable {tracking : Host τ} {host : Host σ} (htracks : tracking.Tracks view host)

include htracks

theorem resize_tracks (handle : WindowHandle) (size : Size) :
    (resize tracking.toWindowSystem handle size).Tracks view
      (resize host.toWindowSystem handle size) := by
  refine (htracks.setWindowSize handle size).bind fun granted ↦ ?_
  cases granted with
  | error error => exact fun _ ↦ rfl
  | ok _ =>
    refine (htracks.windowSize handle).bind fun read ↦ ?_
    cases read <;> exact fun _ ↦ rfl

theorem ResizeSession.close_tracks (session : ResizeSession) :
    (session.close tracking.toWindowSystem).Tracks view (session.close host.toWindowSystem) := by
  unfold ResizeSession.close restoreWindow
  split
  · split
    · exact htracks.maximize session.handle
    · exact (resize_tracks htracks _ _).bind fun _ _ ↦ rfl
  · exact fun _ ↦ rfl

theorem Held.resizeTo_tracks (size : Size) :
    (Held.resizeTo tracking.toWindowSystem size).Tracks (Held.viewed view)
      (Held.resizeTo host.toWindowSystem size) := by
  have hleave : (Held.leaveMaximized tracking.toWindowSystem).Tracks (Held.viewed view)
      (Held.leaveMaximized host.toWindowSystem) := by
    refine Action.Tracks.bind (fun _ ↦ rfl) fun session ↦ ?_
    split
    · exact (Held.tracks_asking (htracks.showRestored _)).bind fun _ _ ↦ rfl
    · exact fun _ ↦ rfl
  refine hleave.bind fun _ ↦ Action.Tracks.bind (fun _ ↦ rfl) fun _ ↦ ?_
  refine Action.Tracks.bind (fun _ ↦ rfl) fun session ↦ ?_
  exact Held.tracks_asking (resize_tracks htracks session.handle size)

/-- The calls under a session agree on the states in view. -/
theorem Host.Tracks.under (target : CaptureTarget) :
    (Alignment.viewing (Held.viewed view)).Under tracking host target := by
  have hcall : ∀ {α : Type} {good : α → Prop} {first : Action τ α} {second : Action σ α},
      first.Tracks view second → (∀ value, good value) →
      (Alignment.viewing (Held.viewed view)).Agree good (Held.asking first) (Held.asking second) :=
    fun hfirst hgood ↦
      (Action.tracks_iff.mp (Held.tracks_asking hfirst)).mono fun value _ ↦ hgood value
  exact {
    initial := by
      rintro one other rfl
      exact ⟨rfl, .inl trivial⟩
    view := hcall (htracks.windowSize _) fun _ _ _ ↦ .inl trivial
    metrics := hcall (htracks.metrics _) fun _ _ _ ↦ .inl trivial
    forceRecalculate := fun force ↦
      (hcall (htracks.forceRecalculate force) fun _ ↦ trivial).since true
    pixelFormat := hcall htracks.pixelFormat fun _ ↦ trivial
    print := fun bitmap _ ↦ hcall (htracks.print _ bitmap) fun _ ↦ .inl trivial
    redraw := hcall (htracks.redraw _) fun _ ↦ trivial
    resizeTo := fun size _ ↦ Action.tracks_iff.mp (Held.resizeTo_tracks htracks size) }

/-- Attempts begin alike on the states in view. -/
theorem Host.Tracks.attempts (target : CaptureTarget) :
    (Alignment.viewing view).Attempts tracking host target := by
  rintro one other rfl
  have hbegin : (ResizeSession.begin tracking.toWindowSystem target.topLevel).Tracks view
      (ResizeSession.begin host.toWindowSystem target.topLevel) := by
    refine (htracks.windowSize target.topLevel).bind fun read ↦ ?_
    cases read with
    | error error => exact fun _ ↦ rfl
    | ok initial => exact (htracks.isMaximized target.topLevel).bind fun maximized _ ↦ rfl
  have hother := hbegin one
  rcases hone : (ResizeSession.begin tracking.toWindowSystem target.topLevel).results one with
    ⟨fault | error | session, one'⟩
  all_goals rw [hone] at hother
  · exact .fault hone hother rfl
  · exact .refused hone hother rfl
  · refine .begun (Alignment.viewing (Held.viewed view)) hone hother rfl Iff.rfl
      (htracks.under target) ⟨?_, ?_⟩
    all_goals
      rintro held other rfl
      have hclose := ResizeSession.close_tracks htracks held.session
    · exact Action.tracks_iff.mp hclose held.host _ rfl
    · exact congrArg Prod.snd (hclose held.host)

theorem findTarget_tracks : (findTarget tracking).Tracks view (findTarget host) :=
  Action.tracks_iff.mpr (Alignment.agree_findTarget
    { topLevelWindow := Action.tracks_iff.mp htracks.topLevelWindow
      contentWindow := Action.tracks_iff.mp htracks.contentWindow
      hasDocument := Action.tracks_iff.mp htracks.hasDocument
      isStandardsMode := Action.tracks_iff.mp htracks.isStandardsMode
      hasElement := fun canvas ↦ Action.tracks_iff.mp (htracks.hasElement canvas) })

/-- A request to a host ends as one to the host that it tracks, whichever way it ends. -/
theorem takeScreenshot_tracks (options : CaptureOptions) :
    (takeScreenshot tracking options).Tracks view (takeScreenshot host options) := by
  refine Action.tracks_iff.mpr (Alignment.agree_takeScreenshot (.inl trivial) ?_)
  exact (Action.tracks_iff.mp (findTarget_tracks htracks)).mono
    fun _ _ target _ ↦ htracks.attempts target

end Capture

end PageCapture
