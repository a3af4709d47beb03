import PageCapture.Viewport.Resolution

/-!
# Contracts of actions

What is known of the state before an action, and what then holds of its end. `Action.Ends` speaks of
every end, a fault included: it is the contract of a computation in front of a host of which nothing
is known. `Action.Gives` says in addition that there is no fault: it is the contract of a
computation in front of a host whose replies are known. `Action.Yields` also names the value, for a
host whose replies are all determined. `Attempt.Ends` and `Attempt.Yields` are the same for the
parts of an attempt, which may also end with an error of the capture; `Attempt.Within` are the
states under a session.

Contracts are put together in the way actions are: there is a rule named `bind` for each kind, for
two computations one after the other.
-/

set_option autoImplicit false
set_option relaxedAutoImplicit false

namespace PageCapture

variable {σ α β : Type}

namespace Action

/-! ### The ends of the basic actions -/

@[simp]
theorem results_pure (value : α) (state : σ) :
    (pure value : Action σ α).results state = (.ok value, state) :=
  rfl

@[simp]
theorem results_ofResults (ends : σ → Except Fault α × σ) (state : σ) :
    (ofResults ends).results state = ends state :=
  rfl

@[simp]
theorem results_inspect (view : σ → α) (state : σ) :
    (inspect view).results state = (.ok (view state), state) :=
  rfl

@[simp]
theorem results_change (next : σ → σ) (state : σ) :
    (change next).results state = (.ok (), next state) :=
  rfl

@[simp]
theorem results_check (computed : Except Fault α) (state : σ) :
    (check computed).results state = (computed, state) :=
  rfl

/-! ### Contracts that allow faults -/

/-- From every state with `before` the action ends, with a value or a fault, as `after` says. -/
def Ends (before : σ → Prop) (action : Action σ α) (after : Except Fault α → σ → Prop) : Prop :=
  ∀ state, before state → after (action.results state).1 (action.results state).2

/-- Two actions one after the other. Assumes: what the first leaves by a fault is allowed, and what
it leaves with a value is enough for the second. -/
theorem Ends.bind {before : σ → Prop} {action : Action σ α} {next : α → Action σ β}
    {middle : Except Fault α → σ → Prop} {after : Except Fault β → σ → Prop}
    (hfirst : Ends before action middle)
    (hfault : ∀ fault last, middle (.error fault) last → after (.error fault) last)
    (hnext : ∀ value, Ends (middle (.ok value)) (next value) after) :
    Ends before (action >>= next) after := by
  intro state hbefore
  have hmiddle := hfirst state hbefore
  rw [bind_results]
  generalize action.results state = ends at hmiddle
  rcases ends with ⟨fault | value, last⟩
  · exact hfault fault last hmiddle
  · exact hnext value last hmiddle

/-! ### Contracts without faults -/

/-- From every state with `before` the action ends with a value, as `after` says. -/
def Gives (before : σ → Prop) (action : Action σ α) (after : α → σ → Prop) : Prop :=
  ∀ state, before state →
    ∃ value last, action.results state = (.ok value, last) ∧ after value last

theorem Gives.mono {before : σ → Prop} {action : Action σ α} {after weaker : α → σ → Prop}
    (hgives : Gives before action after)
    (hweaker : ∀ value last, after value last → weaker value last) :
    Gives before action weaker := by
  intro state hbefore
  obtain ⟨value, last, hends, hafter⟩ := hgives state hbefore
  exact ⟨value, last, hends, hweaker value last hafter⟩

/-- Two actions one after the other, neither of which meets a fault. -/
theorem Gives.bind {before : σ → Prop} {action : Action σ α} {next : α → Action σ β}
    {middle : α → σ → Prop} {after : β → σ → Prop} (hfirst : Gives before action middle)
    (hnext : ∀ value, Gives (middle value) (next value) after) :
    Gives before (action >>= next) after := by
  intro state hbefore
  obtain ⟨value, between, hends, hmiddle⟩ := hfirst state hbefore
  obtain ⟨result, last, hlast, hafter⟩ := hnext value between hmiddle
  refine ⟨result, last, ?_, hafter⟩
  rw [bind_results, hends]
  exact hlast

/-- From every state with `before` the action ends with one and the same value, in a state with
`after`. -/
def Yields (before : σ → Prop) (action : Action σ α) (value : α) (after : σ → Prop) : Prop :=
  ∀ state, before state → ∃ last, action.results state = (.ok value, last) ∧ after last

theorem yields_pure {value : α} {before : σ → Prop} :
    Yields before (pure value : Action σ α) value before :=
  fun state hstate ↦ ⟨state, rfl, hstate⟩

/-- Two actions one after the other, the second of which is known by the value of the first. -/
theorem Yields.bind {before middle after : σ → Prop} {action : Action σ α} {next : α → Action σ β}
    {value : α} {result : β} (hfirst : Yields before action value middle)
    (hnext : Yields middle (next value) result after) :
    Yields before (action >>= next) result after := by
  intro state hbefore
  obtain ⟨between, hends, hmiddle⟩ := hfirst state hbefore
  obtain ⟨last, hlast, hafter⟩ := hnext between hmiddle
  refine ⟨last, ?_, hafter⟩
  rw [bind_results, hends]
  exact hlast

/-- An action with a known value, and one after it of whose value less is known. -/
theorem Yields.bind_gives {before middle : σ → Prop} {action : Action σ α}
    {next : α → Action σ β} {value : α} {after : β → σ → Prop}
    (hfirst : Yields before action value middle) (hnext : Gives middle (next value) after) :
    Gives before (action >>= next) after := by
  intro state hbefore
  obtain ⟨between, hends, hmiddle⟩ := hfirst state hbefore
  obtain ⟨result, last, hlast, hafter⟩ := hnext between hmiddle
  refine ⟨result, last, ?_, hafter⟩
  rw [bind_results, hends]
  exact hlast

end Action

namespace Attempt

/-! ### The ends of the basic parts of an attempt -/

@[simp]
theorem results_asking (action : Action σ α) (held : Held σ) :
    (Held.asking action).results held =
      ((action.results held.host).1, { held with host := (action.results held.host).2 }) :=
  rfl

@[simp]
theorem results_pure (value : α) (held : Held σ) :
    Action.results (pure value : Attempt σ α).run held = (.ok (.ok value), held) :=
  rfl

/-- An action as a part of an attempt: its value is one of the part. -/
theorem results_act (action : Action (Held σ) α) (held : Held σ) :
    Action.results (act action).run held =
      ((action.results held).1.map .ok, (action.results held).2) := by
  have hmap : (act action).run = action >>= fun value ↦ pure (.ok value) := map_eq_pure_bind _ _
  rw [hmap, Action.bind_results]
  rcases action.results held with ⟨_ | _, last⟩ <;> rfl

theorem results_check (computed : Except Fault α) (held : Held σ) :
    Action.results (check computed : Attempt σ α).run held = (computed.map .ok, held) := by
  rw [check, ← act, results_act, Action.results_check]

/-- Two parts one after the other: the second is left out when the first ends with a fault or with
an error. -/
theorem results_bind (part : Attempt σ α) (next : α → Attempt σ β) (held : Held σ) :
    Action.results (part >>= next).run held =
      match Action.results part.run held with
      | (.ok (.ok value), last) => Action.results (next value).run last
      | (.ok (.error error), last) => (.ok (.error error), last)
      | (.error fault, last) => (.error fault, last) := by
  rw [ExceptT.run_bind, Action.bind_results]
  rcases Action.results part.run held with ⟨_ | _ | _, last⟩ <;> rfl

/-- What the host replies, where its errors are those of the attempt. -/
theorem results_ask (action : Action σ (Except HostError α)) (held : Held σ) :
    Action.results (ask action).run held =
      ((action.results held.host).1.map (Except.mapError .ofHostError),
        { held with host := (action.results held.host).2 }) := by
  rw [ask, ← act, results_bind, results_act, results_asking]
  rcases action.results held.host with ⟨_ | _ | _, last⟩ <;> rfl

/-! ### Contracts of the parts of an attempt -/

/-- From every state with `before` the part ends, with a value, an error of the capture or a fault,
as `after` says. -/
def Ends (before : Held σ → Prop) (part : Attempt σ α)
    (after : Except Fault (Except CaptureError α) → Held σ → Prop) : Prop :=
  Action.Ends before part.run after

/-- Two parts one after the other. Assumes: what the first leaves by a fault or an error is allowed,
and what it leaves with a value is enough for the second. -/
theorem Ends.bind {before : Held σ → Prop} {part : Attempt σ α} {next : α → Attempt σ β}
    {middle : Except Fault (Except CaptureError α) → Held σ → Prop}
    {after : Except Fault (Except CaptureError β) → Held σ → Prop}
    (hfirst : Ends before part middle)
    (hfault : ∀ fault last, middle (.error fault) last → after (.error fault) last)
    (herror : ∀ error last, middle (.ok (.error error)) last → after (.ok (.error error)) last)
    (hnext : ∀ value, Ends (middle (.ok (.ok value))) (next value) after) :
    Ends before (part >>= next) after := by
  refine Action.Ends.bind hfirst hfault fun ended ↦ ?_
  cases ended with
  | error error => exact fun last hlast ↦ herror error last hlast
  | ok value => exact hnext value

/-- The states under a session whose host is in a state with `known`. -/
def Within (session : ResizeSession) (known : σ → Prop) (held : Held σ) : Prop :=
  held.session = session ∧ known held.host

/-- From every state with `before` the part ends with one and the same value, in a state with
`after`. -/
def Yields (before : Held σ → Prop) (part : Attempt σ α) (value : α) (after : Held σ → Prop) :
    Prop :=
  Action.Yields before part.run (.ok value) after

theorem yields_pure {value : α} {before : Held σ → Prop} :
    Yields before (pure value : Attempt σ α) value before :=
  Action.yields_pure

theorem Yields.bind {before middle after : Held σ → Prop} {part : Attempt σ α}
    {next : α → Attempt σ β} {value : α} {result : β} (hfirst : Yields before part value middle)
    (hnext : Yields middle (next value) result after) :
    Yields before (part >>= next) result after :=
  Action.Yields.bind hfirst hnext

/-- A part with a known value, and one after it of whose end less is known. -/
theorem Yields.bind_gives {before middle : Held σ → Prop} {part : Attempt σ α}
    {next : α → Attempt σ β} {value : α} {after : Except CaptureError β → Held σ → Prop}
    (hfirst : Yields before part value middle)
    (hnext : Action.Gives middle (next value).run after) :
    Action.Gives before (part >>= next).run after :=
  Action.Yields.bind_gives hfirst hnext

theorem yields_act {before after : Held σ → Prop} {action : Action (Held σ) α} {value : α}
    (hyields : Action.Yields before action value after) :
    Yields before (act action) value after := by
  intro held hheld
  obtain ⟨last, hends, hlast⟩ := hyields held hheld
  exact ⟨last, by rw [results_act, hends]; rfl, hlast⟩

theorem yields_check {before : Held σ → Prop} {computed : Except Fault α} {value : α}
    (hcomputed : computed = .ok value) :
    Yields before (check computed : Attempt σ α) value before :=
  fun held hheld ↦ ⟨held, by rw [results_check, hcomputed]; rfl, hheld⟩

/-- What is asked of the host under a session. -/
theorem yields_asking {session : ResizeSession} {before after : σ → Prop} {action : Action σ α}
    {value : α} (hyields : Action.Yields before action value after) :
    Action.Yields (Within session before) (Held.asking action) value (Within session after) := by
  rintro held ⟨hsession, hheld⟩
  obtain ⟨last, hends, hlast⟩ := hyields held.host hheld
  exact ⟨{ held with host := last }, by rw [results_asking, hends], hsession, hlast⟩

theorem yields_ask {session : ResizeSession} {before after : σ → Prop}
    {action : Action σ (Except HostError α)} {value : α}
    (hyields : Action.Yields before action (.ok value) after) :
    Yields (Within session before) (ask action) value (Within session after) :=
  (yields_act (yields_asking hyields)).bind yields_pure

end Attempt

end PageCapture
