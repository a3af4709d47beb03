import PageCapture.Proofs.Form.Scalar

/-!
# Edits of a record

An edit of a record leaves members out, changes parts of those that stay, adds members with names
that are not among its own, and puts all of them in any order (`Datum.Edited`). Of a record whose
names are different, what an edit has done to one member can be told from its name alone
(`Datum.Edited.fields?`): there is no member of the name when it was left out, and otherwise one, in
whatever place. So a field that was left out has its default, and a field that stays is read from
what it has become (`Datum.Outcome.default?`).
-/

set_option autoImplicit false
set_option relaxedAutoImplicit false

namespace PageCapture

namespace Datum

variable {deleted : String → Bool} {part : String → Datum → Datum → Prop}

/-- What is left of the members of a record: those that are not deleted, in their order, each with
what has become of its datum. -/
inductive Kept (deleted : String → Bool) (part : String → Datum → Datum → Prop) :
    List (String × Datum) → List (String × Datum) → Prop
  | nil : Kept deleted part [] []
  | delete {name : String} {datum : Datum} {members kept : List (String × Datum)}
      (hname : deleted name = true) (hkept : Kept deleted part members kept) :
    Kept deleted part ((name, datum) :: members) kept
  | keep {name : String} {datum edited : Datum} {members kept : List (String × Datum)}
      (hname : deleted name = false) (hpart : part name datum edited)
      (hkept : Kept deleted part members kept) :
    Kept deleted part ((name, datum) :: members) ((name, edited) :: kept)

/-- A datum after an edit. The members of a record may be deleted, edited in their parts, put in
another order and joined by members with new names; a datum that is no record stays as it is. -/
inductive Edited (deleted : String → Bool) (part : String → Datum → Datum → Prop) :
    Datum → Datum → Prop
  | record {members kept added edited : List (String × Datum)}
      (hkept : Kept deleted part members kept)
      (hadded : ∀ member ∈ added, ∀ own ∈ members, member.1 ≠ own.1)
      (horder : edited.Perm (kept ++ added)) :
    Edited deleted part (.record members) (.record edited)
  | other {datum : Datum} (hdatum : ∀ members, datum ≠ .record members) :
    Edited deleted part datum datum

/-- A datum after an edit of a record and of the records that its members hold. -/
def EditedWithin (deleted : String → Bool) (deletedIn : String → String → Bool) :
    Datum → Datum → Prop :=
  Edited deleted fun name ↦ Edited (deletedIn name) fun _ ↦ Eq

theorem Kept.refl {members : List (String × Datum)}
    (hdeleted : ∀ member ∈ members, deleted member.1 = false)
    (hpart : ∀ member ∈ members, part member.1 member.2 member.2) :
    Kept deleted part members members := by
  induction members with
  | nil => exact .nil
  | cons member members ih =>
    rw [List.forall_mem_cons] at hdeleted hpart
    exact .keep hdeleted.1 hpart.1 (ih hdeleted.2 hpart.2)

/-- An edit may add nothing and keep the order. -/
theorem Edited.of_kept {members kept : List (String × Datum)}
    (hkept : Kept deleted part members kept) :
    Edited deleted part (.record members) (.record kept) := by
  have horder : kept.Perm (kept ++ []) := by rw [List.append_nil]
  exact .record hkept (fun _ hmember ↦ by cases hmember) horder

/-- An edit may change nothing. -/
theorem Edited.refl (hpart : ∀ name datum, part name datum datum) (datum : Datum) :
    Edited (fun _ ↦ false) part datum datum := by
  by_cases hdatum : ∃ members, datum = .record members
  · obtain ⟨members, rfl⟩ := hdatum
    exact .of_kept (.refl (fun _ _ ↦ rfl) fun member _ ↦ hpart member.1 member.2)
  · exact .other fun members h ↦ hdatum ⟨members, h⟩

theorem EditedWithin.refl (datum : Datum) :
    EditedWithin (fun _ ↦ false) (fun _ _ ↦ false) datum datum :=
  Edited.refl (fun _ part ↦ .refl (fun _ _ ↦ rfl) part) datum

theorem Edited.eq_of_ne_record {datum edited : Datum} (hedited : Edited deleted part datum edited)
    (hdatum : ∀ members, datum ≠ .record members) : edited = datum := by
  cases hedited with
  | record => exact absurd rfl (hdatum _)
  | other => rfl

/-! ### What an edit has made of a member -/

/-- Among members of other names there is none of the name. -/
theorem named_eq_nil {name : String} {members : List (String × Datum)}
    (hmembers : ∀ member ∈ members, member.1 ≠ name) : named name members = [] := by
  unfold named
  rw [List.filter_eq_nil_iff.mpr fun member hmember ↦ by simpa using hmembers member hmember]
  rfl

theorem named_cons_self (name : String) (datum : Datum) (members : List (String × Datum)) :
    named name ((name, datum) :: members) = datum :: named name members := by
  simp [named]

theorem named_cons_of_ne {name other : String} (hother : other ≠ name) (datum : Datum)
    (members : List (String × Datum)) :
    named name ((other, datum) :: members) = named name members := by
  simp [named, hother]

/-- Nothing is kept under a name that was not there. -/
theorem Kept.name_mem {members kept : List (String × Datum)}
    (hkept : Kept deleted part members kept) :
    ∀ member ∈ kept, member.1 ∈ members.map Prod.fst := by
  induction hkept with
  | nil => exact nofun
  | delete hname hkept ih => exact fun member hmember ↦ List.mem_cons_of_mem _ (ih member hmember)
  | keep hname hpart hkept ih =>
    intro member hmember
    rcases List.mem_cons.mp hmember with rfl | hmember
    · exact List.mem_cons_self
    · exact List.mem_cons_of_mem _ (ih member hmember)

/-- What has become of the member of a name: nothing, or a part of what it was. -/
inductive Outcome (deleted : String → Bool) (part : String → Datum → Datum → Prop) (name : String)
    (datum : Datum) : Option Datum → Prop
  | gone (hname : deleted name = true) : Outcome deleted part name datum none
  | stays {edited : Datum} (hname : deleted name = false) (hpart : part name datum edited) :
    Outcome deleted part name datum (some edited)

theorem Kept.exists_outcome {members kept : List (String × Datum)}
    (hkept : Kept deleted part members kept) (hnames : (members.map Prod.fst).Nodup) {name : String}
    {datum : Datum} (hmember : (name, datum) ∈ members) :
    ∃ outcome, Outcome deleted part name datum outcome ∧ named name kept = outcome.toList := by
  induction hkept with
  | nil => cases hmember
  | @delete own _ members kept hname hkept ih =>
    rw [List.map_cons, List.nodup_cons] at hnames
    rcases List.mem_cons.mp hmember with heq | hmember
    · cases heq
      refine ⟨none, .gone hname, named_eq_nil ?_⟩
      rintro member hin rfl
      exact hnames.1 (hkept.name_mem member hin)
    · exact ih hnames.2 hmember
  | @keep own _ edited members kept hname hpart hkept ih =>
    rw [List.map_cons, List.nodup_cons] at hnames
    rcases List.mem_cons.mp hmember with heq | hmember
    · cases heq
      have hothers : named name kept = [] := by
        refine named_eq_nil ?_
        rintro member hin rfl
        exact hnames.1 (hkept.name_mem member hin)
      exact ⟨some edited, .stays hname hpart, by rw [named_cons_self, hothers]; rfl⟩
    · have hne : own ≠ name := by
        rintro rfl
        exact hnames.1 (List.mem_map.mpr ⟨_, hmember, rfl⟩)
      rw [named_cons_of_ne hne]
      exact ih hnames.2 hmember

/-- Data in the order of one datum at most are that datum. -/
theorem eq_toList_of_perm {outcome : Option Datum} {data : List Datum}
    (hperm : data.Perm outcome.toList) : data = outcome.toList := by
  cases outcome with
  | none => exact hperm.eq_nil
  | some datum => exact List.perm_singleton.mp hperm

/-- One datum at most is given for a field of which there is one member at most. -/
theorem given?_eq_of_named {name : String} {members : List (String × Datum)}
    {outcome : Option Datum} (hnamed : named name members = outcome.toList) :
    given? members name = some outcome := by
  unfold given?
  rw [hnamed]
  cases outcome <;> rfl

/-- The fields of a record after an edit: what has become of each is found by its name, in whatever
place it stands and whatever was added. -/
theorem Edited.fields? {members : List (String × Datum)} {after : Datum}
    (hedited : Edited deleted part (.record members) after)
    (hnames : (members.map Prod.fst).Nodup) (dialect : Dialect) :
    ∃ found : String → Option Datum,
      after.fields? dialect (members.map Prod.fst) = some ((members.map Prod.fst).map found) ∧
      ∀ member ∈ members, Outcome deleted part member.1 member.2 (found member.1) := by
  cases hedited with
  | other hdatum => exact absurd rfl (hdatum members)
  | @record _ kept added edited hkept hadded horder =>
    have hgiven : ∀ member ∈ members, ∃ outcome,
        Outcome deleted part member.1 member.2 outcome ∧
          given? edited member.1 = some outcome := by
      intro member hmember
      obtain ⟨outcome, houtcome, hnamed⟩ := hkept.exists_outcome hnames hmember
      have hnew : named member.1 added = [] :=
        named_eq_nil fun other hother ↦ hadded other hother member hmember
      -- The order does not matter, as the members of this name are those that are kept of it.
      have hperm := (horder.filter fun other ↦ other.1 = member.1).map Prod.snd
      rw [List.filter_append, List.map_append] at hperm
      change (named member.1 edited).Perm (named member.1 kept ++ named member.1 added) at hperm
      rw [hnew, List.append_nil, hnamed] at hperm
      exact ⟨outcome, houtcome, given?_eq_of_named (eq_toList_of_perm hperm)⟩
    refine ⟨fun name ↦ (given? edited name).getD none, ?_, ?_⟩
    · refine mapM_eq_some_of_forall fun name hname ↦ ?_
      obtain ⟨member, hmember, rfl⟩ := List.mem_map.mp hname
      obtain ⟨outcome, -, hfield⟩ := hgiven member hmember
      rw [hfield, Option.getD_some]
    · intro member hmember
      obtain ⟨outcome, houtcome, hfield⟩ := hgiven member hmember
      simp only [hfield, Option.getD_some]
      exact houtcome

/-! ### Reading a field -/

/-- A field that was left out has its default, and one that stays is read from what it has
become. -/
theorem Outcome.default? {α : Type} [Form α] {dialect : Dialect} {name : String} {datum : Datum}
    {found : Option Datum} (hfound : Outcome deleted part name datum found) {value : α}
    (hvalue : deleted name = false →
      ∀ edited, part name datum edited → Form.read? dialect edited = some value)
    (otherwise : α) :
    Form.default? dialect otherwise found = some (if deleted name then otherwise else value) := by
  cases hfound with
  | gone hname =>
    rw [hname]
    rfl
  | stays hname hpart =>
    rw [hname]
    exact hvalue hname _ hpart

/-- A field that stays and can be read has become something that can be read. -/
theorem Outcome.exists_read? {α : Type} [Form α] {dialect : Dialect} {name : String}
    {datum : Datum} {found : Option Datum} (hfound : Outcome deleted part name datum found)
    (hname : deleted name = false) {otherwise value : α}
    (hread : Form.default? dialect otherwise found = some value) :
    ∃ edited, part name datum edited ∧ Form.read? dialect edited = some value := by
  cases hfound with
  | gone hgone =>
    rw [hname] at hgone
    cases hgone
  | stays _ hpart => exact ⟨_, hpart, hread⟩

/-- A field without a default must stay. -/
theorem Outcome.required? {α : Type} [Form α] {dialect : Dialect} {name : String} {datum : Datum}
    {found : Option Datum} (hfound : Outcome deleted part name datum found) {value : α}
    (hvalue : ∀ edited, part name datum edited → Form.read? dialect edited = some value) :
    (Form.required? dialect found : Option α) = if deleted name then none else some value := by
  cases hfound with
  | gone hname =>
    rw [hname]
    rfl
  | stays hname hpart =>
    rw [hname]
    exact hvalue _ hpart

end Datum

end PageCapture
