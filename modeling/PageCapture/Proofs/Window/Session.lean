import PageCapture.Proofs.Action.Contract

/-!
# Sessions step by step

What the operations of a session come to, given what the calls to the host come to: leaving the
maximized state (`results_leaveMaximized`, `results_leaveMaximized_of_left`), also where that ends
with a fault (`results_leaveMaximized_of_fault`), resizing the frame (`results_resizeTo`,
`results_growTo_true`), and holding a session while a computation runs. `ResizeSession.grown` is the
session behind a growth. The state that `ResizeSession.during` leaves is that of closing the session
the computation ended with, whichever way it ended (`results_during_snd`); its value is that of the
computation when closing meets no fault (`results_during`).
-/

set_option autoImplicit false
set_option relaxedAutoImplicit false

namespace PageCapture

variable {σ α : Type} {windows : WindowSystem σ}

namespace Held

/-- A window that was not maximized, or is so no longer, is left as it is. -/
theorem results_leaveMaximized_of_left {held : Held σ}
    (hleft : held.session.demaximized = held.session.wasMaximized) :
    (leaveMaximized windows).results held = (.ok (), held) := by
  unfold leaveMaximized
  rw [Action.bind_results]
  simp [current, hleft]

/-- A maximized window is shown restored, and the session knows it. -/
theorem results_leaveMaximized {held : Held σ} {last : σ}
    (hmaximized : held.session.wasMaximized = true) (hnot : held.session.demaximized = false)
    (hshow : (windows.showRestored held.session.handle).results held.host = (.ok (), last)) :
    (leaveMaximized windows).results held =
      (.ok (), ⟨{ held.session with demaximized := true }, last⟩) := by
  unfold leaveMaximized
  rw [Action.bind_results]
  simp [current, note, hmaximized, hnot, hshow, Action.bind_results]

/-- A fault on the way out of the maximized state: the session does not know that the window has
been touched. -/
theorem results_leaveMaximized_of_fault {held : Held σ} {last : σ} {fault : Fault}
    (hmaximized : held.session.wasMaximized = true) (hnot : held.session.demaximized = false)
    (hshow : (windows.showRestored held.session.handle).results held.host = (.error fault, last)) :
    (leaveMaximized windows).results held = (.error fault, { held with host := last }) := by
  unfold leaveMaximized
  rw [Action.bind_results]
  simp [current, hmaximized, hnot, hshow, Action.bind_results]

/-- Once the window has left the maximized state its frame is resized, whichever way that ends. -/
theorem results_resizeTo_of_left {size : Size} {held between : Held σ}
    (hleave : (leaveMaximized windows).results held = (.ok (), between)) :
    (resizeTo windows size).results held =
      (((resize windows between.session.handle size).results between.host).1,
        ⟨{ between.session with resized := true },
          ((resize windows between.session.handle size).results between.host).2⟩) := by
  unfold resizeTo
  rw [Action.bind_results, hleave]
  simp [note, current, Action.bind_results]

/-- A fault on the way out of the maximized state is one of the resize, which is not begun. -/
theorem results_resizeTo_of_fault {size : Size} {held last : Held σ} {fault : Fault}
    (hleave : (leaveMaximized windows).results held = (.error fault, last)) :
    (resizeTo windows size).results held = (.error fault, last) := by
  rw [resizeTo, Action.bind_results, hleave]

theorem results_resizeTo {size : Size} {held between : Held σ} {observed : Bool} {last : σ}
    (hleave : (leaveMaximized windows).results held = (.ok (), between))
    (hresize : (resize windows between.session.handle size).results between.host =
      (.ok observed, last)) :
    (resizeTo windows size).results held =
      (.ok observed, ⟨{ between.session with resized := true }, last⟩) := by
  rw [results_resizeTo_of_left hleave, hresize]

/-- A window that has left the maximized state without a fault was left as it is, or has been shown
restored. -/
theorem leaveMaximized_ends {held between : Held σ}
    (hends : (leaveMaximized windows).results held = (.ok (), between)) :
    between = held ∨
      held.session.wasMaximized = true ∧
        (windows.showRestored held.session.handle).results held.host = (.ok (), between.host) ∧
        between.session = { held.session with demaximized := true } := by
  by_cases hleft : held.session.demaximized = held.session.wasMaximized
  · rw [results_leaveMaximized_of_left hleft] at hends
    cases hends
    exact .inl rfl
  unfold leaveMaximized at hends
  rw [Action.bind_results] at hends
  simp only [current, Action.results_inspect] at hends
  split at hends
  · rename_i hshown
    rw [Bool.and_eq_true] at hshown
    rw [Action.bind_results, Attempt.results_asking] at hends
    rcases hshow : (windows.showRestored held.session.handle).results held.host
      with ⟨fault | _, last⟩ <;> rw [hshow] at hends <;> cases hends
    exact .inr ⟨hshown.1, rfl, rfl⟩
  · cases hends
    exact .inl rfl

/-- A frame that has been resized without a fault has left the maximized state before. The session
keeps what it has recorded, and knows that it has changed the window. -/
theorem resizeTo_ends {size : Size} {held last : Held σ} {observed : Bool}
    (hends : (resizeTo windows size).results held = (.ok observed, last)) :
    ∃ between, (leaveMaximized windows).results held = (.ok (), between) ∧
      (resize windows held.session.handle size).results between.host = (.ok observed, last.host) ∧
      ∃ demaximized, last.session = { held.session with demaximized, resized := true } := by
  rcases hleave : (leaveMaximized windows).results held with ⟨fault | _, between⟩
  · rw [results_resizeTo_of_fault hleave] at hends
    cases hends
  obtain ⟨demaximized, hsession⟩ :
      ∃ demaximized, between.session = { held.session with demaximized } := by
    rcases leaveMaximized_ends hleave with rfl | ⟨-, -, hsession⟩
    · exact ⟨_, rfl⟩
    · exact ⟨true, hsession⟩
  rw [results_resizeTo_of_left hleave, hsession] at hends
  obtain ⟨hobserved, hlast⟩ := Prod.mk.inj hends
  subst hlast
  exact ⟨between, rfl, Prod.ext hobserved rfl, demaximized, rfl⟩

end Held

theorem results_growTo_false (size : Size) (held : Held σ) :
    Action.results (growTo windows false size).run held = (.ok (.ok ()), held) :=
  rfl

/-- Growing resizes the frame; whether the window took the size is not asked. -/
theorem results_growTo_true {size : Size} {held last : Held σ} {observed : Bool}
    (hresize : (Held.resizeTo windows size).results held = (.ok observed, last)) :
    Action.results (growTo windows true size).run held = (.ok (.ok ()), last) := by
  rw [growTo, if_pos rfl, Attempt.results_bind, Attempt.results_act, hresize]
  rfl

/-- A fault of the resize ends the growth. -/
theorem results_growTo_of_fault {size : Size} {held last : Held σ} {fault : Fault}
    (hresize : (Held.resizeTo windows size).results held = (.error fault, last)) :
    Action.results (growTo windows true size).run held = (.error fault, last) := by
  rw [growTo, if_pos rfl, Attempt.results_bind, Attempt.results_act, hresize]
  rfl

namespace ResizeSession

/-- A session once the frame has been resized under it, if it has. -/
def grown (session : ResizeSession) (grew : Bool) : ResizeSession :=
  if grew then { session with demaximized := session.wasMaximized, resized := true } else session

theorem grown_grown (session : ResizeSession) (wide high : Bool) :
    (session.grown wide).grown high = session.grown (wide || high) := by
  cases wide <;> cases high <;> rfl

variable {session : ResizeSession} {body : Action (Held σ) α}

/-- A session that changed nothing puts nothing back. -/
theorem results_close_of_untouched (huntouched : session.isMutated = false) (state : σ) :
    (session.close windows).results state = (.ok (), state) := by
  simp [close, huntouched]

/-- Closing a session that changed the window puts it back. -/
theorem close_of_mutated (hmutated : session.isMutated = true) :
    session.close windows =
      restoreWindow windows session.handle session.initial session.wasMaximized := by
  simp [close, hmutated]

/-- Whichever way a computation ends, the session it ends with is closed. -/
theorem results_during_snd (state : σ) :
    ((session.during windows body).results state).2 =
      (((body.results ⟨session, state⟩).2.session.close windows).results
        (body.results ⟨session, state⟩).2.host).2 := by
  simp only [during, Action.results_ofResults]
  split <;> rfl

/-- When closing the session meets no fault, the end of the computation stays the outcome. -/
theorem results_during {state last : σ} {held : Held σ} {ended : Except Fault α}
    (hbody : body.results ⟨session, state⟩ = (ended, held))
    (hclose : (held.session.close windows).results held.host = (.ok (), last)) :
    (session.during windows body).results state = (ended, last) := by
  simp only [during, Action.results_ofResults, hbody, hclose]
  cases ended <;> rfl

end ResizeSession

end PageCapture
