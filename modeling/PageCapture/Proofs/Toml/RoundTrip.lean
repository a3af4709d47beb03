import PageCapture.Proofs.Toml.Scalar

/-!
# Written TOML is read back

A text lays out sections (`Lays`) if it has for each of them a header and a line for each of its
members, with a value in any of its forms, and lines without anything wherever they are wanted. Such
a text holds the record of these sections (`Lays.read?_eq`), if the names are bare and different;
and what the program writes for a record of sections is such a text (`lays_write`).

The reader goes through the text line by line. What it has read before a line is a record of
sections in which the last one is open; a header opens the next (`Document.Ends.headerLine`), and a
member goes behind the others of the open section (`Document.Ends.memberLine`). By induction on the
layout the reader ends with all sections (`Document.exists_ends`).
-/

set_option autoImplicit false
set_option relaxedAutoImplicit false

namespace PageCapture.Toml

/-! ### Tables that grow at their end -/

namespace Members

variable {front : Members} {name : String}

theorem lookup_eq_none (hname : name ∉ front.map Prod.fst) : front.lookup name = none := by
  rw [List.lookup_eq_none_iff]
  intro member hmember
  rw [bne_iff_ne]
  rintro rfl
  exact hname (List.mem_map_of_mem hmember)

theorem lookup_append_self (hname : name ∉ front.map Prod.fst) (item : Item) :
    (front ++ [(name, item)]).lookup name = some item := by
  rw [List.lookup_append, lookup_eq_none hname, Option.none_or, List.lookup_cons_self]

/-- A new name goes behind all others. -/
theorem put_eq_append (hname : name ∉ front.map Prod.fst) (item : Item) :
    put name item front = front ++ [(name, item)] := by
  induction front with
  | nil => rfl
  | cons member front ih =>
    rw [List.map_cons, List.mem_cons, not_or] at hname
    rw [put, if_neg (Ne.symm hname.1), ih hname.2, List.cons_append]

/-- What stands last is replaced in its place. -/
theorem put_append_self (hname : name ∉ front.map Prod.fst) (item held : Item) :
    put name item (front ++ [(name, held)]) = front ++ [(name, item)] := by
  induction front with
  | nil => rw [List.nil_append, put, if_pos rfl]; rfl
  | cons member front ih =>
    rw [List.map_cons, List.mem_cons, not_or] at hname
    rw [List.cons_append, put, if_neg (Ne.symm hname.1), ih hname.2, List.cons_append]

end Members

/-- Among different names one does not occur in front of itself. -/
theorem not_mem_of_nodup {α : Type} {front behind : List (String × α)} {entry : String × α}
    (hnodup : ((front ++ entry :: behind).map Prod.fst).Nodup) :
    entry.1 ∉ front.map Prod.fst := by
  rw [List.map_append, List.nodup_append] at hnodup
  exact fun hmem ↦ hnodup.2.2 _ hmem _ (.head _) rfl

/-! ### Sections -/

/-- Sections by their names, each with its members. -/
abbrev Sections : Type := List (String × List (String × Datum))

/-- Entries with different bare names. -/
structure Named {α : Type} (entries : List (String × α)) : Prop where
  nodup : (entries.map Prod.fst).Nodup
  bare : ∀ entry ∈ entries, Bare entry.1

/-- A record of sections. -/
def ofSections (sections : Sections) : Datum :=
  .record (sections.map fun entry ↦ (entry.1, .record entry.2))

/-- The items of members once they are read. -/
def valuesOf (members : List (String × Datum)) : Members :=
  members.map fun member ↦ (member.1, .value member.2)

/-- The table of a section once its members are read. -/
def tableOf (members : List (String × Datum)) : Item := .table .header (valuesOf members)

/-- The tables of sections once they are read. -/
def rootOf (sections : Sections) : Members := sections.map fun entry ↦ (entry.1, tableOf entry.2)

theorem membersData_valuesOf (members : List (String × Datum)) :
    membersData (valuesOf members) = members := by
  unfold valuesOf
  induction members with
  | nil => rfl
  | cons member members ih => rw [List.map_cons, membersData, ih, Item.datum]

/-- What is read for sections is a record of them. -/
theorem record_rootOf (sections : Sections) :
    .record (membersData (rootOf sections)) = ofSections sections := by
  unfold rootOf ofSections
  congr 1
  induction sections with
  | nil => rfl
  | cons entry sections ih =>
    rw [List.map_cons, membersData, ih, tableOf, Item.datum, membersData_valuesOf]
    rfl

theorem map_fst_rootOf (sections : Sections) :
    (rootOf sections).map Prod.fst = sections.map Prod.fst := by
  simp [rootOf]

theorem rootOf_append (sections : Sections) (name : String) (members : List (String × Datum)) :
    rootOf (sections ++ [(name, members)]) = rootOf sections ++ [(name, tableOf members)] := by
  simp [rootOf]

/-! ### Layouts -/

/-- Lines of members, each with a value in one of its forms. -/
inductive LaysMembers : List (String × Datum) → List Char → Prop
  | nil : LaysMembers [] []
  | cons {member : String × Datum} {members : List (String × Datum)} {characters lines : List Char}
      (hwritten : Written member.2 characters) (hlines : LaysMembers members lines) :
    LaysMembers (member :: members)
      (member.1.toList ++ ' ' :: '=' :: ' ' :: (characters ++ '\n' :: lines))

/-- A text of sections: their headers with the lines of their members, and empty lines. -/
inductive Lays : Sections → List Char → Prop
  | nil : Lays [] []
  | newline {sections : Sections} {lines : List Char} (hlines : Lays sections lines) :
    Lays sections ('\n' :: lines)
  | entry {entry : String × List (String × Datum)} {sections : Sections} {own lines : List Char}
      (hown : LaysMembers entry.2 own) (hlines : Lays sections lines) :
    Lays (entry :: sections) ('[' :: (entry.1.toList ++ ']' :: '\n' :: (own ++ lines)))

/-! ### Lines -/

namespace Document

/-- The reader goes through the lines of a text and ends with a document. A line takes a character
at least, so that more fuel than there are characters is enough. -/
def Ends (size : Nat) (document : Document) (input : List Char) (last : Document) : Prop :=
  ∀ fuel, input.length < fuel → lines? size fuel document input = some last

theorem ends_nil (size : Nat) (document : Document) : Ends size document [] document := by
  rintro (_ | fuel) hfuel
  · cases hfuel
  · rfl

variable {size : Nat} {document last : Document} {rest : List Char}

theorem Ends.newline (hends : Ends size document rest last) :
    Ends size document ('\n' :: rest) last := by
  rintro (_ | fuel) hfuel
  · cases hfuel
  · rw [List.length_cons] at hfuel
    exact hends fuel (by omega)

/-- A single bracket opens a header. -/
theorem lines?_bracket (fuel : Nat) {c : Char} (hc : c ≠ '[') :
    lines? size (fuel + 1) document ('[' :: c :: rest) =
      match document.header? [']'] Members.openTable (c :: rest) with
      | none => none
      | some (next, after) => lines? size fuel next after := by
  have hstart : skipBlank ('[' :: c :: rest) = '[' :: c :: rest := rfl
  rw [lines?, hstart]
  split
  case h_5 heq => exact absurd (List.cons.inj (List.cons.inj heq).2).1 hc
  case h_6 heq =>
    cases heq
    rfl
  case h_7 hother => exact (hother _ rfl).elim
  all_goals
    next heq => cases heq

/-- A header of a new name makes an empty section behind the others. -/
theorem header?_bare {sections : Sections} {name : String}
    (hname : name ∉ sections.map Prod.fst) (hbare : Bare name) (current : List String)
    (rest : List Char) :
    header? { root := rootOf sections, current } [']'] Members.openTable
        (name.toList ++ ']' :: '\n' :: rest) =
      some ({ root := rootOf (sections ++ [(name, [])]), current := [name] }, rest) := by
  have hkey : key? (name.toList ++ ']' :: '\n' :: rest) = some ([name], ']' :: '\n' :: rest) :=
    key?_bare hbare (fun c hc ↦ by cases hc; rfl) (show some ']' ≠ some '.' by decide)
  rw [← map_fst_rootOf] at hname
  have hopen : (rootOf sections).within (Members.openTable name) [] =
      some (rootOf (sections ++ [(name, [])])) := by
    rw [Members.within, Members.openTable, Members.lookup_eq_none hname]
    simp only
    rw [Members.put_eq_append hname, rootOf_append]
    rfl
  unfold header?
  rw [hkey]
  change ((rootOf sections).within (Members.openTable name) []).map _ = _
  rw [hopen]
  rfl

/-- A header opens a new section, which is empty. -/
theorem Ends.headerLine {sections : Sections} {name : String}
    (hname : name ∉ sections.map Prod.fst) (hbare : Bare name)
    (hends : Ends size { root := rootOf (sections ++ [(name, [])]), current := [name] } rest last)
    (current : List String) :
    Ends size { root := rootOf sections, current }
      ('[' :: (name.toList ++ ']' :: '\n' :: rest)) last := by
  rintro (_ | fuel) hfuel
  · cases hfuel
  · have hheader := header?_bare hname hbare current rest
    simp only [List.length_cons, List.length_append] at hfuel
    obtain ⟨c, cs, hcons, hc⟩ := hbare.exists_eq_cons
    rw [hcons, List.cons_append] at hheader ⊢
    rw [lines?_bracket fuel (ne_of_holds hc rfl), hheader]
    exact hends fuel (by omega)

/-- A line that starts with a name is one of a member. -/
theorem lines?_name (fuel : Nat) {c : Char} (hc : isKeyCharacter c = true) :
    lines? size (fuel + 1) document (c :: rest) =
      match document.member? size (c :: rest) with
      | none => none
      | some (next, after) => lines? size fuel next after := by
  rw [lines?, skipBlank_cons (ne_of_holds hc rfl) (ne_of_holds hc rfl)]
  split
  case h_1 heq => cases heq
  case h_7 => rfl
  all_goals
    next heq => exact absurd (List.cons.inj heq).1 (ne_of_holds hc rfl)

/-- A member of a new name goes behind the others of the last section. -/
theorem member?_bare {sections : Sections} {name : String}
    (hname : name ∉ sections.map Prod.fst) {members : List (String × Datum)}
    {member : String × Datum} (hmember : member.1 ∉ members.map Prod.fst) (hbare : Bare member.1)
    {characters : List Char} (hwritten : Written member.2 characters) (size : Nat)
    (rest : List Char) :
    member? { root := rootOf (sections ++ [(name, members)]), current := [name] } (size + 1)
        (member.1.toList ++ ' ' :: '=' :: ' ' :: (characters ++ '\n' :: rest)) =
      some ({ root := rootOf (sections ++ [(name, members ++ [member])]), current := [name] },
        rest) := by
  have hkey : key? (member.1.toList ++ ' ' :: '=' :: ' ' :: (characters ++ '\n' :: rest)) =
      some ([member.1], '=' :: ' ' :: (characters ++ '\n' :: rest)) :=
    key?_bare hbare (fun c hc ↦ by cases hc; rfl) (show some '=' ≠ some '.' by decide)
  have hassign : (rootOf (sections ++ [(name, members)])).within
      (Members.assign true [member.1] member.2) [name] =
        some (rootOf (sections ++ [(name, members ++ [member])])) := by
    have hnew : member.1 ∉ (valuesOf members).map Prod.fst := by simpa [valuesOf] using hmember
    rw [← map_fst_rootOf] at hname
    rw [rootOf_append, rootOf_append, Members.within, Members.lookup_append_self hname]
    simp only [tableOf, Members.within, Members.assign, Members.lookup_eq_none hnew,
      Option.isNone_none, Bool.and_self, if_true, Option.map_some, Members.put_eq_append hnew,
      Members.put_append_self hname]
    rw [valuesOf, valuesOf, List.map_append]
    rfl
  unfold member?
  rw [hkey]
  simp only
  rw [hwritten.skipBlank_append, hwritten.value?_append]
  simp only [lineEnd?_newline, hassign]
  rfl

/-- A line of a member puts it behind the others of the section that is open. -/
theorem Ends.memberLine {sections : Sections} {name : String}
    (hname : name ∉ sections.map Prod.fst) {members : List (String × Datum)}
    {member : String × Datum} (hmember : member.1 ∉ members.map Prod.fst) (hbare : Bare member.1)
    {characters : List Char} (hwritten : Written member.2 characters)
    (hends : Ends (size + 1) { root := rootOf (sections ++ [(name, members ++ [member])]),
                               current := [name] } rest last) :
    Ends (size + 1) { root := rootOf (sections ++ [(name, members)]), current := [name] }
      (member.1.toList ++ ' ' :: '=' :: ' ' :: (characters ++ '\n' :: rest)) last := by
  rintro (_ | fuel) hfuel
  · cases hfuel
  · have hread := member?_bare hname hmember hbare hwritten size rest
    simp only [List.length_cons, List.length_append] at hfuel
    obtain ⟨c, cs, hcons, hc⟩ := hbare.exists_eq_cons
    rw [hcons, List.cons_append] at hread ⊢
    rw [lines?_name fuel hc, hread]
    exact hends fuel (by omega)

/-- The lines of members put them behind the others of the section that is open. -/
theorem Ends.memberLines {sections : Sections} {name : String}
    (hname : name ∉ sections.map Prod.fst) (before : List (String × Datum))
    {members : List (String × Datum)} (hnamed : Named (before ++ members)) {lines : List Char}
    (hlines : LaysMembers members lines)
    (hends : Ends (size + 1) { root := rootOf (sections ++ [(name, before ++ members)]),
                               current := [name] } rest last) :
    Ends (size + 1) { root := rootOf (sections ++ [(name, before)]), current := [name] }
      (lines ++ rest) last := by
  induction hlines generalizing before with
  | nil =>
    rw [List.append_nil] at hends
    exact hends
  | @cons member members characters lines hwritten _ ih =>
    have hmember := not_mem_of_nodup hnamed.nodup
    have hbare := hnamed.bare member (List.mem_append_right _ List.mem_cons_self)
    rw [List.append_cons before] at hnamed hends
    have hline := Ends.memberLine hname hmember hbare hwritten
      (ih (before ++ [member]) hnamed hends)
    simpa using hline

/-- The lines of sections put them behind those that are there. -/
theorem exists_ends (before : Sections) {sections : Sections} (hnamed : Named (before ++ sections))
    (hmembers : ∀ entry ∈ sections, Named entry.2) {lines : List Char}
    (hlines : Lays sections lines) (size : Nat) (current : List String) :
    ∃ now, Ends (size + 1) { root := rootOf before, current } lines
      { root := rootOf (before ++ sections), current := now } := by
  induction hlines generalizing before current with
  | nil =>
    rw [List.append_nil]
    exact ⟨current, ends_nil _ _⟩
  | newline _ ih =>
    obtain ⟨now, hends⟩ := ih before hnamed hmembers current
    exact ⟨now, hends.newline⟩
  | @entry entry sections own lines hown _ ih =>
    have hname := not_mem_of_nodup hnamed.nodup
    have hbare := hnamed.bare entry (List.mem_append_right _ List.mem_cons_self)
    rw [List.forall_mem_cons] at hmembers
    rw [List.append_cons before] at hnamed ⊢
    obtain ⟨now, hrest⟩ := ih (before ++ [entry]) hnamed hmembers.2 [entry.1]
    have hsection := Ends.memberLines hname [] hmembers.1 hown hrest
    exact ⟨now, hsection.headerLine hname hbare current⟩

end Document

/-! ### Documents -/

/-- No layout starts with a byte order mark. -/
theorem Lays.skipMark_eq {sections : Sections} {characters : List Char}
    (hlays : Lays sections characters) : skipMark characters = characters := by
  cases hlays <;> rfl

/-- A text that lays out sections with different bare names holds the record of these sections. -/
theorem Lays.read?_eq {sections : Sections} {text : String} (hlays : Lays sections text.toList)
    (hnamed : Named sections) (hmembers : ∀ entry ∈ sections, Named entry.2) :
    read? text = some (ofSections sections) := by
  obtain ⟨now, hends⟩ := Document.exists_ends [] hnamed hmembers hlays text.toList.length []
  have hread : Document.lines? (text.toList.length + 1) (text.toList.length + 1) {} text.toList =
      some { root := rootOf sections, current := now } := hends _ (Nat.lt_succ_self _)
  unfold read?
  rw [hlays.skipMark_eq]
  simp only [hread, Option.map_some, record_rootOf]

/-! ### What the program writes -/

theorem laysMembers_flatMap {members : List (String × Datum)}
    (hscalar : ∀ member ∈ members, Scalar member.2) :
    LaysMembers members (members.flatMap memberLine) := by
  induction members with
  | nil => exact .nil
  | cons member members ih =>
    rw [List.forall_mem_cons] at hscalar
    obtain ⟨characters, hcharacters, hwritten⟩ := hscalar.1.exists_written
    have hline := LaysMembers.cons hwritten (ih hscalar.2)
    simpa [memberLine, hcharacters] using hline

/-- The text that is written for a record of sections lays them out, if all values can be
written. -/
theorem lays_write {sections : Sections}
    (hscalar : ∀ entry ∈ sections, ∀ member ∈ entry.2, Scalar member.2) :
    Lays sections (write (ofSections sections)).toList := by
  rw [ofSections, write, String.toList_ofList, List.map_map]
  induction sections with
  | nil => exact .nil
  | cons entry sections ih =>
    rw [List.forall_mem_cons] at hscalar
    have hown := laysMembers_flatMap hscalar.1
    have hrest := ih hscalar.2
    cases sections with
    | nil =>
      have hlays := Lays.entry hown .nil
      simpa [sectionLines] using hlays
    | cons next sections =>
      have hlays := Lays.entry hown hrest.newline
      simpa [sectionLines] using hlays

end PageCapture.Toml
