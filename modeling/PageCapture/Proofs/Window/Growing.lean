import PageCapture.Proofs.Host.Transcript
import PageCapture.Proofs.Window.Session

/-!
# What growing a frame asks

The exchanges with a host when the frame of a window is given a size. A resize is one call that sets
the size, behind which the size is read where the host has granted it (`Resizing`). Growing the
frame of a session is one resize, in front of which the window leaves the maximized state if it is
still in it (`Growing`).

`resize_asks` and `growTo_asks` say that these are the exchanges, whatever the host replies.
`Resizing.geometryCalls_eq` and `Growing.geometryCalls_eq` say which of them change the geometry;
none reads the layout (`Growing.not_mem`).
-/

set_option autoImplicit false
set_option relaxedAutoImplicit false

namespace PageCapture

variable {σ : Type}

/-- The exchanges of giving a window a size: where the host grants that, the size is read back. -/
inductive Resizing (handle : WindowHandle) (size : Size) : List Exchange → Prop
  | refused (error : HostError) :
    Resizing handle size [.setWindowSize handle size (.error error)]
  | granted (reply : Except HostError Size) :
    Resizing handle size [.setWindowSize handle size (.ok ()), .windowSize handle reply]

/-- The exchange of taking the window of a session out of the maximized state, if it is in it. -/
def ResizeSession.leaving (session : ResizeSession) : List Exchange :=
  if session.wasMaximized && !session.demaximized then [.showRestored session.handle] else []

/-- The exchanges of growing the frame of a session to a size, where that is needed. -/
inductive Growing (session : ResizeSession) (size : Size) : Bool → List Exchange → Prop
  | kept : Growing session size false []
  | grown {resizing : List Exchange} (hresizing : Resizing session.handle size resizing) :
    Growing session size true (session.leaving ++ resizing)

theorem Resizing.geometryCalls_eq {handle : WindowHandle} {size : Size} {exchanges : List Exchange}
    (hresizing : Resizing handle size exchanges) :
    geometryCalls exchanges = [.setWindowSize handle size] := by
  cases hresizing <;> rfl

/-- Growing a frame changes the geometry at most by leaving the maximized state and by one
resize. -/
theorem Growing.geometryCalls_eq {session : ResizeSession} {size : Size}
    {exchanges : List Exchange} (hgrowing : Growing session size true exchanges) :
    geometryCalls exchanges =
      (if session.wasMaximized && !session.demaximized then [.showRestored session.handle]
        else []) ++
        [.setWindowSize session.handle size] := by
  cases hgrowing with
  | grown hresizing =>
    rw [geometryCalls_append, hresizing.geometryCalls_eq, ResizeSession.leaving]
    split <;> rfl

/-- Growing the frame does not read the layout. -/
theorem Growing.not_mem {session : ResizeSession} {size : Size} {needed : Bool}
    {exchanges : List Exchange} (hgrowing : Growing session size needed exchanges)
    (canvas : Canvas) (reply : Except HostError LayoutMetrics) :
    .metrics canvas reply ∉ exchanges := by
  cases hgrowing with
  | kept => exact List.not_mem_nil
  | grown hresizing =>
    unfold ResizeSession.leaving
    cases hresizing <;> split <;> simp

section Responsive

variable {host : Host σ} (hhost : host.Responsive)

include hhost

theorem resize_asks (handle : WindowHandle) (size : Size) (transcript : Transcript σ) :
    ∃ resizing observed state, Resizing handle size resizing ∧
      (resize host.transcribed.toWindowSystem handle size).results transcript =
        (.ok observed, ⟨state, transcript.exchanges ++ resizing⟩) := by
  obtain ⟨granted, middle, hset⟩ := Transcript.results_noting (.setWindowSize handle size)
    (hhost.setWindowSize handle size) transcript
  obtain ⟨read, last, hread⟩ := Transcript.results_noting (.windowSize handle)
    (hhost.windowSize handle) ⟨middle, transcript.exchanges ++ [.setWindowSize handle size granted]⟩
  unfold resize
  rw [Action.bind_results, show (host.transcribed.setWindowSize handle size).results transcript = _
    from hset]
  cases granted with
  | error error => exact ⟨_, false, middle, .refused error, rfl⟩
  | ok _ =>
    simp only
    rw [Action.bind_results, show (host.transcribed.windowSize handle).results _ = _ from hread]
    simp only [List.append_assoc]
    cases read with
    | error error => exact ⟨_, false, last, .granted (.error error), rfl⟩
    | ok observed => exact ⟨_, observed = size, last, .granted (.ok observed), rfl⟩

/-- Growing the frame under a session that has left the maximized state only where it was in it. -/
theorem growTo_asks (needed : Bool) (size : Size) {session : ResizeSession}
    (hleft : session.demaximized = true → session.wasMaximized = true)
    (transcript : Transcript σ) :
    ∃ since state, Growing session size needed since ∧
      Action.results (growTo host.transcribed.toWindowSystem needed size).run
          ⟨session, transcript⟩ =
        (.ok (.ok ()), ⟨session.grown needed, ⟨state, transcript.exchanges ++ since⟩⟩) := by
  cases needed with
  | false =>
    refine ⟨[], transcript.host, .kept, ?_⟩
    rw [results_growTo_false, List.append_nil]
    rfl
  | true =>
    -- Behind this step the window is not maximized any more.
    obtain ⟨shown, hleave⟩ : ∃ shown,
        (Held.leaveMaximized host.transcribed.toWindowSystem).results ⟨session, transcript⟩ =
          (.ok (), ⟨{ session with demaximized := session.wasMaximized },
            ⟨shown, transcript.exchanges ++ session.leaving⟩⟩) := by
      by_cases hmaximized : session.wasMaximized = true ∧ session.demaximized = false
      · obtain ⟨_, shown, hshow⟩ := Transcript.results_noting
          (fun _ ↦ .showRestored session.handle) (hhost.showRestored session.handle) transcript
        refine ⟨shown, ?_⟩
        rw [Held.results_leaveMaximized hmaximized.1 hmaximized.2 hshow]
        simp [ResizeSession.leaving, hmaximized]
      · have hsame : session.demaximized = session.wasMaximized := by
          cases hdone : session.demaximized <;> cases hwas : session.wasMaximized <;> simp_all
        have hnone : session.leaving = [] := by simp [ResizeSession.leaving, hsame]
        refine ⟨transcript.host, ?_⟩
        rw [Held.results_leaveMaximized_of_left hsame, hnone, List.append_nil]
        exact congrArg (fun left ↦ (Except.ok (), (⟨{ session with demaximized := left },
          transcript⟩ : Held (Transcript σ)))) hsame
    obtain ⟨resizing, observed, state, hresizing, hresize⟩ := resize_asks hhost session.handle size
      ⟨shown, transcript.exchanges ++ session.leaving⟩
    refine ⟨_, state, .grown hresizing, ?_⟩
    rw [results_growTo_true (Held.results_resizeTo hleave hresize), List.append_assoc]
    rfl

end Responsive

end PageCapture
