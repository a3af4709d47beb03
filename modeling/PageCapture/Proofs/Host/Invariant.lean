import PageCapture.Proofs.Host.SideBySide

/-!
# Invariants of hosts

A host keeps an invariant when every call that a capture makes is answered and leads from a state
with the invariant to another one. `Host.Keeps` says so for the calls of attempts on a target; the
sizes that are read have room and what is drawn stays drawable, unless faults are let pass.

The states with the invariant go together with themselves (`Alignment.keeping`). So captures side by
side make the invariant one of whole attempts (`Host.Keeps.attempts`), and where no faults are let
pass there are none.
-/

set_option autoImplicit false
set_option relaxedAutoImplicit false

namespace PageCapture

variable {σ α : Type}

/-- The alignment of a world with itself in the states with an invariant. Where faults are let pass
the invariant is left behind them too, and otherwise there are none. -/
def Alignment.keeping (invariant : σ → Prop) (lenient : Prop) : Alignment σ σ :=
  .alone invariant (fun state ↦ lenient ∧ invariant state) lenient
    fun hlenient _ hinvariant ↦ ⟨hlenient, hinvariant⟩

/-- What agrees with itself keeps the invariant, whichever way it ends. -/
theorem Alignment.Agree.kept {invariant : σ → Prop} {lenient : Prop} {good : α → Prop}
    {action : Action σ α} (hagree : (keeping invariant lenient).Agree good action action)
    {state : σ} (hstate : invariant state) : invariant (action.results state).2 := by
  obtain ⟨hfault, hvalue⟩ := hagree.ends state hstate
  cases hended : (action.results state).1 with
  | error fault => exact (hfault fault hended).2
  | ok value => exact (hvalue value hended).1

/-- The calls of attempts on a target are answered and keep an invariant. -/
structure Host.Keeps (host : Host σ) (invariant : σ → Prop) (lenient : Prop)
    (target : CaptureTarget) : Prop where
  windowSize : ∀ handle, Action.Gives invariant (host.windowSize handle) fun reply last ↦
    invariant last ∧ ∀ size, reply = .ok size → lenient ∨ size.Roomy
  setWindowSize : ∀ size, Action.Gives invariant (host.setWindowSize target.topLevel size)
    fun _ last ↦ invariant last
  isMaximized : Action.Gives invariant (host.isMaximized target.topLevel) fun _ last ↦
    invariant last
  showRestored : Action.Gives invariant (host.showRestored target.topLevel) fun _ last ↦
    invariant last
  maximize : Action.Gives invariant (host.maximize target.topLevel) fun _ last ↦ invariant last
  pixelFormat : Action.Gives invariant host.pixelFormat fun _ last ↦ invariant last
  print : ∀ bitmap, (lenient ∨ bitmap.Drawable) →
    Action.Gives invariant (host.print target.content bitmap) fun reply last ↦
      invariant last ∧ (lenient ∨ reply.2.Drawable)
  redraw : Action.Gives invariant (host.redraw target.content) fun _ last ↦ invariant last
  metrics : Action.Gives invariant (host.metrics target.canvas) fun reply last ↦
    invariant last ∧ ∀ metrics, reply = .ok metrics → lenient ∨ metrics.client.Nonnegative
  forceRecalculate : ∀ force, Action.Gives invariant (host.forceRecalculate force) fun _ last ↦
    invariant last

/-- What is asked of a host under a session leaves the session as it is. -/
theorem Held.gives_asking {known : ResizeSession → Prop} {before : σ → Prop} {action : Action σ α}
    {after : α → σ → Prop} (hgives : Action.Gives before action after) :
    Action.Gives (fun held ↦ known held.session ∧ before held.host) (Held.asking action)
      fun value held ↦ known held.session ∧ after value held.host := by
  rintro held ⟨hsession, hheld⟩
  obtain ⟨value, last, hends, hlast⟩ := hgives held.host hheld
  exact ⟨value, ⟨held.session, last⟩, by rw [Attempt.results_asking, hends], hsession, hlast⟩

/-- A session on a window that began with a size that has room. -/
def ResizeSession.On (handle : WindowHandle) (lenient : Prop) (session : ResizeSession) : Prop :=
  session.handle = handle ∧ (lenient ∨ session.initial.Roomy)

namespace Host.Keeps

variable {host : Host σ} {invariant : σ → Prop} {lenient : Prop} {target : CaptureTarget}
  (hkeeps : host.Keeps invariant lenient target)

include hkeeps

theorem resize (size : Size) :
    Action.Gives invariant (resize host.toWindowSystem target.topLevel size) fun _ last ↦
      invariant last := by
  refine (hkeeps.setWindowSize size).bind fun granted ↦ ?_
  cases granted with
  | error error => exact fun state hstate ↦ ⟨false, state, rfl, hstate⟩
  | ok _ =>
    refine (hkeeps.windowSize target.topLevel).bind fun read state hstate ↦ ?_
    cases read <;> exact ⟨_, state, rfl, hstate.1⟩

theorem resizeTo (size : Size) :
    Action.Gives
      (fun held : Held σ ↦ held.session.On target.topLevel lenient ∧ invariant held.host)
      (Held.resizeTo host.toWindowSystem size)
      fun _ last ↦ last.session.On target.topLevel lenient ∧ invariant last.host := by
  rintro held ⟨hsession, hheld⟩
  obtain ⟨between, hleave, hbetween, hmiddle⟩ : ∃ between : Held σ,
      (Held.leaveMaximized host.toWindowSystem).results held = (.ok (), between) ∧
        between.session.On target.topLevel lenient ∧ invariant between.host := by
    by_cases hleft : held.session.demaximized = held.session.wasMaximized
    · exact ⟨held, Held.results_leaveMaximized_of_left hleft, hsession, hheld⟩
    · unfold Held.leaveMaximized
      rw [Action.bind_results]
      simp only [Held.current, Action.results_inspect]
      split
      · obtain ⟨_, last, hshow, hlast⟩ := hkeeps.showRestored held.host hheld
        rw [← hsession.1] at hshow
        refine ⟨⟨{ held.session with demaximized := true }, last⟩, ?_, hsession, hlast⟩
        rw [Action.bind_results, Attempt.results_asking, hshow]
        rfl
      · exact ⟨held, rfl, hsession, hheld⟩
  obtain ⟨observed, last, hresize, hlast⟩ := hkeeps.resize size between.host hmiddle
  rw [← hbetween.1] at hresize
  exact ⟨observed, _, Held.results_resizeTo hleave hresize, hbetween, hlast⟩

theorem close {session : ResizeSession} (hsession : session.On target.topLevel lenient) :
    Action.Gives invariant (session.close host.toWindowSystem) fun _ last ↦ invariant last := by
  unfold ResizeSession.close restoreWindow
  rw [hsession.1]
  split
  · split
    · exact hkeeps.maximize
    · exact (hkeeps.resize session.initial).bind fun _ state hstate ↦ ⟨(), state, rfl, hstate⟩
  · exact fun state hstate ↦ ⟨(), state, rfl, hstate⟩

theorem begin :
    Action.Gives invariant (ResizeSession.begin host.toWindowSystem target.topLevel)
      fun begun last ↦ invariant last ∧
        ∀ session, begun = .ok session → session.On target.topLevel lenient := by
  refine (hkeeps.windowSize target.topLevel).bind fun read ↦ ?_
  cases read with
  | error error => exact fun state hstate ↦ ⟨.error error, state, rfl, hstate.1, nofun⟩
  | ok initial =>
    rintro state ⟨hstate, hroom⟩
    obtain ⟨maximized, last, hends, hlast⟩ := hkeeps.isMaximized state hstate
    refine ⟨_, last, by rw [Action.bind_results, hends]; rfl, hlast, fun session hsession ↦ ?_⟩
    cases hsession
    exact ⟨rfl, hroom initial rfl⟩

/-- The calls of an attempt under its session keep the invariant. -/
theorem under :
    (Alignment.keeping
      (fun held : Held σ ↦ held.session.On target.topLevel lenient ∧ invariant held.host)
      lenient).Under host host target := by
  have hcall : ∀ {α : Type} {good : α → Prop} {action : Action σ α},
      Action.Gives invariant action (fun value last ↦ invariant last ∧ good value) →
      (Alignment.keeping
        (fun held : Held σ ↦ held.session.On target.topLevel lenient ∧ invariant held.host)
        lenient).Agree good (Held.asking action) (Held.asking action) := by
    refine fun hgives ↦ Alignment.agree_alone_of_gives ((Held.gives_asking hgives).mono ?_)
    exact fun value last hlast ↦ ⟨⟨hlast.1, hlast.2.1⟩, hlast.2.2⟩
  have hplain : ∀ {α : Type} {action : Action σ α},
      Action.Gives invariant action (fun _ last ↦ invariant last) →
      Action.Gives invariant action (fun _ last ↦ invariant last ∧ True) :=
    fun hgives ↦ hgives.mono fun _ _ hlast ↦ ⟨hlast, trivial⟩
  exact {
    initial := by
      rintro one other ⟨rfl, hsession, -⟩
      exact ⟨rfl, hsession.2⟩
    view := hcall ((hkeeps.windowSize target.content).mono fun reply last hlast ↦
      ⟨hlast.1, fun size hsize ↦ (hlast.2 size hsize).imp_right (·.toNonnegative)⟩)
    metrics := hcall hkeeps.metrics
    forceRecalculate := fun force ↦ (hcall (hplain (hkeeps.forceRecalculate force))).since true
    pixelFormat := hcall (hplain hkeeps.pixelFormat)
    print := fun bitmap hbitmap ↦ hcall (hkeeps.print bitmap hbitmap)
    redraw := hcall (hplain hkeeps.redraw)
    resizeTo := fun size _ ↦ Alignment.agree_alone_of_gives
      ((hkeeps.resizeTo size).mono fun _ _ hlast ↦ ⟨hlast, trivial⟩) }

/-- Attempts on the target keep the invariant. -/
theorem attempts : (Alignment.keeping invariant lenient).Attempts host host target := by
  rintro one other ⟨rfl, hstate⟩
  obtain ⟨begun, last, hbegin, hlast, hsession⟩ := hkeeps.begin other hstate
  cases begun with
  | error error => exact .refused hbegin hbegin ⟨rfl, hlast⟩
  | ok session =>
    refine .begun (.keeping _ lenient) hbegin hbegin ⟨rfl, hsession session rfl, hlast⟩ Iff.rfl
      hkeeps.under ⟨?_, ?_⟩
    · rintro held _ ⟨rfl, hheld, hhost⟩
      obtain ⟨_, after, hclose, hafter⟩ := hkeeps.close hheld _ hhost
      rw [hclose]
      exact ⟨rfl, ⟨rfl, hafter⟩, trivial⟩
    · rintro held _ ⟨rfl, hlenient, hheld, hhost⟩
      obtain ⟨_, after, hclose, hafter⟩ := hkeeps.close hheld _ hhost
      rw [hclose]
      exact ⟨rfl, hlenient, hafter⟩

end Host.Keeps

end PageCapture
