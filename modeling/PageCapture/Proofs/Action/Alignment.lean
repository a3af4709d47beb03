import PageCapture.Proofs.Action.Contract

/-!
# Actions side by side

One computation may run in front of two worlds, or one world may be watched beside itself. An
`Alignment` says which states of the two go together: `holds` between the calls, and `fallen` behind
a fault. `Alignment.Agree` is the contract of two actions that run side by side: from states that go
together they end alike, with the same value or the same fault, and the states that they leave go
together again.

Not every computation may be trusted to meet no fault of its own. An alignment that is `lenient`
lets it, because then whatever goes together between the calls does so behind a fault. In front of
any other alignment a computation has to be without faults, and for that its values have to be good
ones: `Alignment.Expects` is what is asked of a value unless faults are let pass anyway.

`Alignment.AgreeParts` is the same contract for the parts of an attempt. Contracts are put together
in the way actions are, by a rule named `bind` for each kind. `Alignment.alone` is the alignment of
a world with itself: it makes a contract on two runs one on a single run.
-/

set_option autoImplicit false
set_option relaxedAutoImplicit false

namespace PageCapture

variable {σ τ α β : Type}

/-- Which states of two worlds go together. -/
structure Alignment (τ σ : Type) where
  /-- The states go together between the calls. -/
  holds : τ → σ → Prop
  /-- The states go together behind a fault. -/
  fallen : τ → σ → Prop
  /-- Whether a computation may meet a fault of its own. -/
  lenient : Prop
  fallen_of_holds : lenient → ∀ one other, holds one other → fallen one other

namespace Alignment

/-- What is asked of a value, unless faults are let pass anyway. -/
def Expects (A : Alignment τ σ) (wanted : Prop) : Prop := A.lenient ∨ wanted

/-- The states that two actions leave which end alike: behind a value they go together, and the
value is a good one. -/
def Leaves (A : Alignment τ σ) (good : α → Prop) : Except Fault α → τ → σ → Prop
  | .error _, one, other => A.fallen one other
  | .ok value, one, other => A.holds one other ∧ good value

/-- From states that go together two actions end alike and leave states that go together. -/
def Agree (A : Alignment τ σ) (good : α → Prop) (first : Action τ α) (second : Action σ α) : Prop :=
  ∀ one other, A.holds one other →
    (second.results other).1 = (first.results one).1 ∧
      A.Leaves good (first.results one).1 (first.results one).2 (second.results other).2

variable {A : Alignment τ σ} {good : α → Prop}

theorem Expects.mono {wanted weaker : Prop} (hexpects : A.Expects wanted)
    (hweaker : wanted → weaker) : A.Expects weaker :=
  hexpects.imp_right hweaker

theorem Expects.and {first second : Prop} (hfirst : A.Expects first) (hsecond : A.Expects second) :
    A.Expects (first ∧ second) := by
  rcases hfirst with hlenient | hfirst
  · exact .inl hlenient
  · exact hsecond.mono fun hsecond ↦ ⟨hfirst, hsecond⟩

/-- What goes together in one alignment does so in another, where nothing more is asked there. -/
theorem Leaves.mono {B : Alignment τ σ} {ended : Except Fault α} {one : τ} {other : σ}
    (hleaves : A.Leaves good ended one other) (hfallen : A.fallen one other → B.fallen one other)
    (hholds : A.holds one other → B.holds one other) : B.Leaves good ended one other := by
  cases ended with
  | error fault => exact hfallen hleaves
  | ok value => exact ⟨hholds hleaves.1, hleaves.2⟩

/-! ### Actions -/

theorem agree_pure {value : α} (hgood : good value) : A.Agree good (pure value) (pure value) :=
  fun _ _ hholds ↦ ⟨rfl, hholds, hgood⟩

/-- A checked computation. Assumes: it has a value, unless faults are let pass. -/
theorem agree_check {computed : Except Fault α}
    (hvalue : A.Expects (∃ value, computed = .ok value))
    (hgood : ∀ value, computed = .ok value → good value) :
    A.Agree good (Action.check computed) (Action.check computed) := by
  intro one other hholds
  refine ⟨rfl, ?_⟩
  cases computed with
  | ok value => exact ⟨hholds, hgood value rfl⟩
  | error fault =>
    rcases hvalue with hlenient | ⟨value, hvalue⟩
    · exact A.fallen_of_holds hlenient one other hholds
    · cases hvalue

theorem Agree.mono {weaker : α → Prop} {first : Action τ α} {second : Action σ α}
    (hagree : A.Agree good first second) (hweaker : ∀ value, good value → weaker value) :
    A.Agree weaker first second := by
  intro one other hholds
  obtain ⟨hends, hleaves⟩ := hagree one other hholds
  refine ⟨hends, ?_⟩
  generalize (first.results one).1 = ended at hleaves
  cases ended with
  | error fault => exact hleaves
  | ok value => exact ⟨hleaves.1, hweaker value hleaves.2⟩

/-- Two actions one after the other, on either side. -/
theorem Agree.bind {better : β → Prop} {first : Action τ α} {second : Action σ α}
    {firstNext : α → Action τ β} {secondNext : α → Action σ β}
    (hagree : A.Agree good first second)
    (hnext : ∀ value, good value → A.Agree better (firstNext value) (secondNext value)) :
    A.Agree better (first >>= firstNext) (second >>= secondNext) := by
  intro one other hholds
  obtain ⟨hends, hleaves⟩ := hagree one other hholds
  rw [Action.bind_results, Action.bind_results]
  rcases hfirst : first.results one with ⟨ended, one'⟩
  rcases hsecond : second.results other with ⟨ended', other'⟩
  rw [hfirst] at hends hleaves
  rw [hsecond] at hends hleaves
  obtain rfl : ended' = ended := hends
  cases ended' with
  | error fault => exact ⟨rfl, hleaves⟩
  | ok value => exact hnext value hleaves.2 one' other' hleaves.1

/-! ### Parts of an attempt -/

section Parts

variable {A : Alignment (Held τ) (Held σ)} {better : β → Prop}

/-- Two parts of an attempt that run side by side. An error of the capture is a value of theirs of
which nothing is asked. -/
def AgreeParts (A : Alignment (Held τ) (Held σ)) (good : α → Prop) (first : Attempt τ α)
    (second : Attempt σ α) : Prop :=
  A.Agree (fun ended ↦ ∀ value, ended = .ok value → good value) first.run second.run

theorem agreeParts_pure {value : α} (hgood : good value) :
    A.AgreeParts good (pure value) (pure value) :=
  agree_pure fun _ hvalue ↦ Except.ok.inj hvalue ▸ hgood

theorem agreeParts_throw (error : CaptureError) : A.AgreeParts good (throw error) (throw error) :=
  agree_pure fun _ hvalue ↦ by cases hvalue

/-- Two parts one after the other, on either side. -/
theorem AgreeParts.bind {first : Attempt τ α} {second : Attempt σ α}
    {firstNext : α → Attempt τ β} {secondNext : α → Attempt σ β}
    (hagree : A.AgreeParts good first second)
    (hnext : ∀ value, good value → A.AgreeParts better (firstNext value) (secondNext value)) :
    A.AgreeParts better (first >>= firstNext) (second >>= secondNext) := by
  refine Agree.bind hagree fun ended hgood ↦ ?_
  cases ended with
  | error error => exact agree_pure fun _ hvalue ↦ by cases hvalue
  | ok value => exact hnext value (hgood value rfl)

theorem agreeParts_act {first : Action (Held τ) α} {second : Action (Held σ) α}
    (hagree : A.Agree good first second) :
    A.AgreeParts good (Attempt.act first) (Attempt.act second) := by
  intro one other hholds
  obtain ⟨hends, hleaves⟩ := hagree one other hholds
  rw [Attempt.results_act, Attempt.results_act]
  refine ⟨by rw [hends], ?_⟩
  generalize (first.results one).1 = ended at hleaves
  cases ended with
  | error fault => exact hleaves
  | ok value => exact ⟨hleaves.1, fun _ hvalue ↦ Except.ok.inj hvalue ▸ hleaves.2⟩

theorem agreeParts_check {computed : Except Fault α}
    (hvalue : A.Expects (∃ value, computed = .ok value))
    (hgood : ∀ value, computed = .ok value → good value) :
    A.AgreeParts good (Attempt.check computed) (Attempt.check computed) :=
  agreeParts_act (agree_check hvalue hgood)

/-- What is asked of the host under a session, where its errors are those of the attempt. -/
theorem agreeParts_ask {first : Action τ (Except HostError α)}
    {second : Action σ (Except HostError α)}
    (hagree : A.Agree (fun reply ↦ ∀ value, reply = .ok value → good value)
      (Held.asking first) (Held.asking second)) :
    A.AgreeParts good (Attempt.ask first) (Attempt.ask second) := by
  refine (agreeParts_act hagree).bind fun reply hgood ↦ ?_
  cases reply with
  | error error => exact agreeParts_throw _
  | ok value => exact agreeParts_pure (hgood value rfl)

end Parts

/-! ### One world -/

/-- The alignment of a world with itself. -/
def alone (holds fallen : σ → Prop) (lenient : Prop)
    (hlenient : lenient → ∀ state, holds state → fallen state) : Alignment σ σ where
  holds one other := other = one ∧ holds one
  fallen one other := other = one ∧ fallen one
  lenient := lenient
  fallen_of_holds hfaults one _ hholds := ⟨hholds.1, hlenient hfaults one hholds.2⟩

section Alone

variable {holds fallen : σ → Prop} {lenient : Prop}
  {hlenient : lenient → ∀ state, holds state → fallen state} {action : Action σ α}

/-- A contract on one run is one on two runs side by side. -/
theorem agree_alone
    (hends : Action.Ends holds action fun ended last ↦
      (∀ fault, ended = .error fault → fallen last) ∧
        ∀ value, ended = .ok value → holds last ∧ good value) :
    (alone holds fallen lenient hlenient).Agree good action action := by
  rintro one other ⟨rfl, hholds⟩
  obtain ⟨hfault, hvalue⟩ := hends other hholds
  refine ⟨rfl, ?_⟩
  cases hended : (action.results other).1 with
  | error fault => exact ⟨rfl, hfault fault hended⟩
  | ok value => exact ⟨⟨rfl, (hvalue value hended).1⟩, (hvalue value hended).2⟩

theorem agree_alone_of_gives
    (hgives : Action.Gives holds action fun value last ↦ holds last ∧ good value) :
    (alone holds fallen lenient hlenient).Agree good action action := by
  refine agree_alone fun state hholds ↦ ?_
  obtain ⟨value, last, hends, hlast⟩ := hgives state hholds
  rw [hends]
  refine ⟨nofun, fun found hfound ↦ ?_⟩
  exact Except.ok.inj hfound ▸ hlast

/-- What two runs side by side leave is left by one. -/
theorem Agree.ends (hagree : (alone holds fallen lenient hlenient).Agree good action action) :
    Action.Ends holds action fun ended last ↦
      (∀ fault, ended = .error fault → fallen last) ∧
        ∀ value, ended = .ok value → holds last ∧ good value := by
  intro state hholds
  obtain ⟨-, hleaves⟩ := hagree state state ⟨rfl, hholds⟩
  refine ⟨fun fault hfault ↦ ?_, fun value hvalue ↦ ?_⟩
  · rw [hfault] at hleaves
    exact hleaves.2
  · rw [hvalue] at hleaves
    exact ⟨hleaves.1.2, hleaves.2⟩

end Alone

end Alignment

end PageCapture
