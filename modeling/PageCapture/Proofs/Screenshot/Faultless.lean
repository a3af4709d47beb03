import PageCapture.Proofs.Host.Invariant
import PageCapture.Proofs.Screenshot.Classification

/-!
# Requests without faults

The bounds that a configuration is checked for and the bounds of what a host reports fit together:
under both of them nothing in a request leaves its range. `Host.ReportsRoom` is what is asked of the
host. Its frames and views are at most as long as a 32-bit length with the greatest limit taken off,
so that a plan that grows them still has a length; how far the content extends is not bounded.

`takeScreenshot_faultless` covers both axes, the sample, the offsets into the bitmap and its
encoding, in both attempts, whatever else the host replies.
-/

set_option autoImplicit false
set_option relaxedAutoImplicit false

namespace PageCapture

variable {σ α : Type}

/-- The sizes of windows that a host reports leave room for every growth, and the client areas are
not negative. -/
structure Host.ReportsRoom (host : Host σ) : Prop where
  windowSize : ∀ handle, Action.Ends (fun _ ↦ True) (host.windowSize handle) fun ended _ ↦
    ∀ size, ended = .ok (.ok size) → size.Roomy
  metrics : ∀ canvas, Action.Ends (fun _ ↦ True) (host.metrics canvas) fun ended _ ↦
    ∀ metrics, ended = .ok (.ok metrics) → metrics.client.Nonnegative

theorem Action.Answers.gives_any {action : Action σ α} (hanswers : action.Answers) :
    Gives (fun _ ↦ True) action fun _ _ ↦ True := by
  intro state _
  obtain ⟨reply, last, hends⟩ := hanswers state
  exact ⟨reply, last, hends, trivial⟩

/-- An action that is answered gives a reply of the kind that all its replies are. -/
theorem Action.Answers.gives {action : Action σ α} (hanswers : action.Answers)
    {kind : Except Fault α → Prop} (hkind : Ends (fun _ ↦ True) action fun ended _ ↦ kind ended) :
    Gives (fun _ ↦ True) action fun reply _ ↦ True ∧ kind (.ok reply) := by
  intro state _
  obtain ⟨reply, last, hends⟩ := hanswers state
  have hreply := hkind state trivial
  rw [hends] at hreply
  exact ⟨reply, last, hends, trivial, hreply⟩

/-- A host that answers every call keeps what is true of all its replies. -/
theorem Host.Responsive.keeps {host : Host σ} (hhost : host.Responsive)
    (hshape : host.KeepsShape) (hroom : host.ReportsRoom) (target : CaptureTarget) :
    host.Keeps (fun _ ↦ True) False target where
  windowSize handle := ((hhost.windowSize handle).gives (hroom.windowSize handle)).mono
    fun reply _ hreply ↦ ⟨trivial, fun size hsize ↦ .inr (hreply.2 size (by rw [hsize]))⟩
  setWindowSize size := (hhost.setWindowSize _ size).gives_any
  isMaximized := (hhost.isMaximized _).gives_any
  showRestored := (hhost.showRestored _).gives_any
  maximize := (hhost.maximize _).gives_any
  pixelFormat := hhost.pixelFormat.gives_any
  print bitmap hbitmap := ((hhost.print _ bitmap).gives (hshape target.content bitmap)).mono
    fun reply _ hreply ↦ ⟨trivial, hbitmap.imp_right fun hdrawable ↦
      hdrawable.of_sameShape (hreply.2 reply.1 reply.2 rfl)⟩
  redraw := (hhost.redraw _).gives_any
  metrics := ((hhost.metrics target.canvas).gives (hroom.metrics target.canvas)).mono
    fun reply _ hreply ↦
      ⟨trivial, fun metrics hmetrics ↦ .inr (hreply.2 metrics (by rw [hmetrics]))⟩
  forceRecalculate force := (hhost.forceRecalculate force).gives_any

theorem Host.Responsive.surveys {host : Host σ} (hhost : host.Responsive) :
    (Alignment.keeping (fun _ ↦ True) False).Surveys host host := by
  have hquestion : ∀ {α : Type} {action : Action σ α}, action.Answers →
      (Alignment.keeping (fun _ ↦ True) False).Agree (fun _ ↦ True) action action :=
    fun hanswers ↦ Alignment.agree_alone_of_gives
      (hanswers.gives_any.mono fun _ _ _ ↦ ⟨trivial, trivial⟩)
  exact {
    topLevelWindow := hquestion hhost.topLevelWindow
    contentWindow := hquestion hhost.contentWindow
    hasDocument := hquestion hhost.hasDocument
    isStandardsMode := hquestion hhost.isStandardsMode
    hasElement := fun canvas ↦ hquestion (hhost.hasElement canvas) }

/-- A request ends with a response, and meets no fault. Assumes: a configuration that is accepted; a
host that answers every call, whose drawings leave the shape of the bitmap as it is, and whose sizes
have room. -/
theorem takeScreenshot_faultless {config : Config} (hvalid : config.validate = .ok ())
    {host : Host σ} (hhost : host.Responsive) (hshape : host.KeepsShape)
    (hroom : host.ReportsRoom) (start : σ) :
    ∃ response last,
      (takeScreenshot host config.capture).results start = (.ok response, last) := by
  have hrequest : (Alignment.keeping (fun _ ↦ True) False).Agree (fun _ ↦ True)
      (takeScreenshot host config.capture) (takeScreenshot host config.capture) :=
    Alignment.agree_takeScreenshot (.inr (Config.allowed_of_validate hvalid))
      ((Alignment.agree_findTarget hhost.surveys).mono fun _ _ target _ ↦
        (hhost.keeps hshape hroom target).attempts)
  have hends := hrequest.ends start trivial
  rcases hanswer : (takeScreenshot host config.capture).results start with
    ⟨fault | response, last⟩
  · rw [hanswer] at hends
    exact (hends.1 fault rfl).1.elim
  · exact ⟨response, last, rfl⟩

/-- The law at the bounds: windows as long as they may be, an empty client area, and a content that
is as wide as can be said and has a negative height. -/
theorem takeScreenshot_faultless_atBounds :
    ∃ response last,
      (takeScreenshot
        { Host.longPage with
          windowSize := fun _ ↦ return .ok ⟨2147418113, 2147418113⟩
          metrics := fun _ ↦ return .ok ⟨⟨0, 0⟩, ⟨2147483647, -2147483648⟩⟩ }
        ({} : Config).capture).results () = (.ok response, last) := by
  refine takeScreenshot_faultless rfl ?_ ?_ ?_ ()
  · constructor <;> intros <;> exact fun state ↦ ⟨_, state, rfl⟩
  · intro handle bitmap state _ reply printed hends
    cases hends
    exact .refl bitmap
  · constructor
    · intro handle state _ size hsize
      cases hsize
      exact ⟨⟨by decide, by decide⟩, by decide, by decide⟩
    · intro canvas state _ metrics hmetrics
      cases hmetrics
      exact ⟨by decide, by decide⟩

end PageCapture
