import Mathlib.Tactic.SplitIfs
import PageCapture.Json
import PageCapture.Proofs.Text.Digits

/-!
# Written JSON is read back

The reader undoes the writer: `read?_write` says that the text of a datum holds that datum and no
other. It is a law about `Datum.Plain` data, those in which nothing is kept as it was written; every
text, with whatever characters, may stand in them as a value or as a name.

Each part of the reader undoes its part of the writer with any text behind it: a string literal
character by character (`literalOnto_escape`), a number whose digits end there
(`number_characters`), and a value by induction on the datum (`reads_of_plain`), where the lists
inside it are read item by item (`items_itemsAfter`, `members_membersAfter`).
-/

set_option autoImplicit false
set_option relaxedAutoImplicit false

namespace PageCapture

/-- A datum in which nothing is kept as it was written. -/
inductive Datum.Plain : Datum → Prop
  | null : Plain .null
  | boolean (value : Bool) : Plain (.boolean value)
  | integer (value : Int) : Plain (.integer value)
  | text (value : String) : Plain (.text value)
  | sequence {items : List Datum} (hitems : ∀ item ∈ items, Plain item) : Plain (.sequence items)
  | record {members : List (String × Datum)} (hmembers : ∀ member ∈ members, Plain member.2) :
    Plain (.record members)

attribute [simp] Datum.Plain.null Datum.Plain.boolean Datum.Plain.integer Datum.Plain.text

@[simp] theorem Datum.plain_record {members : List (String × Datum)} :
    (Datum.record members).Plain ↔ ∀ member ∈ members, member.2.Plain :=
  ⟨fun | .record hmembers => hmembers, .record⟩

namespace Json

/-! ### String literals -/

/-- A letter behind a backslash stands for one character. -/
theorem literalOnto_shortEscape {letter c : Char} (hletter : letter ≠ 'u')
    (hc : shortEscape? letter = some c) (read : List Char) (sound : Bool) (rest : List Char) :
    literalOnto read sound ('\\' :: letter :: rest) = literalOnto (c :: read) sound rest := by
  rw [literalOnto]
  · rw [hc]
  · exact fun _ _ _ _ _ hcode _ ↦ hletter hcode

/-- Four digits behind a backslash and a letter name a character by its code, which for a small code
is no half of a pair. -/
theorem literalOnto_code (read : List Char) (sound : Bool) {c : Char} (hc : c.toNat < 0x20)
    (rest : List Char) :
    literalOnto read sound
        ('\\' :: 'u' :: '0' :: '0' :: Hexadecimal.digit (c.toNat / 16) ::
          Hexadecimal.digit c.toNat :: rest) =
      literalOnto (c :: read) sound rest := by
  have hhigh : isHighSurrogate c.toNat = false := by
    simp only [isHighSurrogate, decide_eq_false_iff_not]
    omega
  have hlow : isLowSurrogate c.toNat = false := by
    simp only [isLowSurrogate, decide_eq_false_iff_not]
    omega
  rw [literalOnto, Hexadecimal.value?_code (by omega)]
  simp only [hhigh, hlow, Bool.false_eq_true, if_false, Char.ofNat_toNat]

/-- A character that is neither escaped nor a control character stands for itself. -/
theorem literalOnto_plain (read : List Char) (sound : Bool) {c : Char} (hquote : c ≠ '"')
    (hslash : c ≠ '\\') (hc : ¬ c.toNat < 0x20) (rest : List Char) :
    literalOnto read sound (c :: rest) = literalOnto (c :: read) sound rest := by
  rw [literalOnto]
  · rw [if_neg (not_or.mpr ⟨hc, hslash⟩)]
  · exact hquote
  · exact fun _ _ _ _ _ hcode _ ↦ hslash hcode
  · exact fun _ _ hletter _ ↦ hslash hletter

/-- What stands for a character inside a literal is read as that character. -/
theorem literalOnto_escape (read : List Char) (sound : Bool) (c : Char) (rest : List Char) :
    literalOnto read sound (escape c ++ rest) = literalOnto (c :: read) sound rest := by
  unfold escape
  split_ifs with hquote hslash hline hreturn htab hback hfeed hcontrol
  · subst hquote
    exact literalOnto_shortEscape (by decide) rfl read sound rest
  · subst hslash
    exact literalOnto_shortEscape (by decide) rfl read sound rest
  · subst hline
    exact literalOnto_shortEscape (by decide) rfl read sound rest
  · subst hreturn
    exact literalOnto_shortEscape (by decide) rfl read sound rest
  · subst htab
    exact literalOnto_shortEscape (by decide) rfl read sound rest
  · subst hback
    exact literalOnto_shortEscape (by decide) rfl read sound rest
  · subst hfeed
    exact literalOnto_shortEscape (by decide) rfl read sound rest
  · exact literalOnto_code read sound hcontrol rest
  · exact literalOnto_plain read sound hquote hslash hcontrol rest

/-- The characters of a text and the closing quote are read as the text. -/
theorem literalOnto_flatMap_escape (read text rest : List Char) :
    literalOnto read true (text.flatMap escape ++ '"' :: rest) =
      some (some (String.ofList (read.reverse ++ text)), rest) := by
  induction text generalizing read with
  | nil =>
    rw [List.flatMap_nil, List.nil_append, literalOnto, List.append_nil]
    rfl
  | cons c text ih =>
    rw [List.flatMap_cons, List.append_assoc, literalOnto_escape, ih, List.reverse_cons,
      List.append_assoc]
    rfl

/-- A literal is read as its text, from behind its opening quote on. -/
theorem literal_append (text : String) (rest : List Char) :
    ∃ quoted, literal text ++ rest = '"' :: quoted ∧
      literalOnto [] true quoted = some (some text, rest) := by
  refine ⟨text.toList.flatMap escape ++ '"' :: rest, ?_, ?_⟩
  · rw [literal, List.cons_append, List.append_assoc]
    rfl
  · rw [literalOnto_flatMap_escape, List.reverse_nil, List.nil_append, String.ofList_toList]

/-! ### Numbers -/

/-- What may follow a value inside a datum: nothing, or the character that ends an item or a
member. -/
def Closes (rest : List Char) : Prop := ∀ c ∈ rest.head?, c = ',' ∨ c = ']' ∨ c = '}'

theorem closes_nil : Closes [] := nofun

theorem closes_cons {c : Char} (hc : c = ',' ∨ c = ']' ∨ c = '}') (rest : List Char) :
    Closes (c :: rest) := by
  intro d hd
  obtain rfl : c = d := Option.some.inj hd
  exact hc

theorem Closes.not_isDigit {rest : List Char} (hrest : Closes rest) :
    ∀ c ∈ rest.head?, c.isDigit = false := by
  intro c hc
  rcases hrest c hc with rfl | rfl | rfl <;> rfl

/-- Neither a fraction nor an exponent follows a whole number that something closes. -/
theorem Closes.skipFraction_bind {rest : List Char} (hrest : Closes rest) :
    (skipFraction rest).bind skipExponent = some rest := by
  rcases rest with _ | ⟨c, rest⟩
  · rfl
  · rcases hrest c rfl with rfl | rfl | rfl <;> rfl

/-- The digits of a number are read as the number, unless they are those of a zero behind a sign. -/
theorem magnitude_digits (input : List Char) (negative : Bool) (n : Nat)
    (hn : negative = true → n ≠ 0) {rest : List Char} (hrest : Closes rest) :
    magnitude input negative (Decimal.digits n ++ rest) =
      some (.integer (if negative then -(n : Int) else n), rest) := by
  obtain ⟨c, cs, hdigits, -⟩ := Decimal.exists_digits_eq_cons n
  -- A numeral with a zero in front is the one of zero, which is no longer than its one digit.
  have hfront : ¬ ((c :: cs).head? = some '0' ∧ 1 < (c :: cs).length) := by
    rw [← hdigits]
    rintro ⟨hzero, hlong⟩
    have hne : n ≠ 0 := by
      rintro rfl
      exact absurd hlong (by decide)
    exact Decimal.head?_digits_ne hne hzero
  have hvalue : Decimal.value (c :: cs) = n := by rw [← hdigits, Decimal.value_digits]
  have hsigned : ¬ (negative = true ∧ n = 0) := fun h ↦ hn h.1 h.2
  unfold magnitude splitDigits
  rw [Decimal.span_digits n hrest.not_isDigit, hdigits]
  simp only [if_neg hfront, hrest.skipFraction_bind, hvalue, hsigned, not_false_eq_true, and_self,
    if_true]

/-- The numeral of an integer is read as the integer. -/
theorem number_characters (n : Int) {rest : List Char} (hrest : Closes rest) :
    number (Decimal.characters n ++ rest) = some (.integer n, rest) := by
  rcases n with n | n
  · obtain ⟨c, cs, hdigits, hc⟩ := Decimal.exists_digits_eq_cons n
    have hsign : c ≠ '-' := by
      rintro rfl
      exact absurd hc (by decide)
    have hread := magnitude_digits (Decimal.digits n ++ rest) false n nofun hrest
    change number (Decimal.digits n ++ rest) = _
    rw [hdigits, List.cons_append] at hread ⊢
    unfold number
    split
    · next unsigned hminus =>
      exact absurd (List.cons.inj hminus).1 hsign
    · exact hread
  · exact magnitude_digits _ true (n + 1) (fun _ ↦ Nat.succ_ne_zero n) hrest

/-! ### Values -/

/-- A character that a value may start with: no blank, and not the end of a sequence. -/
def Starts (c : Char) : Prop := c ≠ ' ' ∧ c ≠ '\n' ∧ c ≠ '\t' ∧ c ≠ '\r' ∧ c ≠ ']'

theorem Starts.skipBlank_cons {c : Char} (hc : Starts c) (rest : List Char) :
    skipBlank (c :: rest) = c :: rest := by
  obtain ⟨hspace, hline, htab, hreturn, -⟩ := hc
  simp [skipBlank, hspace, hline, htab, hreturn]

theorem starts_of_isNumeralCharacter {c : Char} (hc : Decimal.isNumeralCharacter c = true) :
    Starts c :=
  ⟨ne_of_holds hc rfl, ne_of_holds hc rfl, ne_of_holds hc rfl, ne_of_holds hc rfl,
    ne_of_holds hc rfl⟩

/-- The text of a datum is not empty and starts like a value. -/
theorem exists_characters_eq_cons {d : Datum} (hd : d.Plain) :
    ∃ c cs, characters d = c :: cs ∧ Starts c := by
  cases hd with
  | null => exact ⟨_, _, rfl, by unfold Starts; decide⟩
  | boolean value => cases value <;> exact ⟨_, _, rfl, by unfold Starts; decide⟩
  | integer value =>
    obtain ⟨c, cs, hcharacters, hc⟩ := Decimal.exists_characters_eq_cons value
    exact ⟨c, cs, hcharacters, starts_of_isNumeralCharacter hc⟩
  | text value => exact ⟨_, _, rfl, by unfold Starts; decide⟩
  | @sequence items _ => cases items <;> exact ⟨_, _, rfl, by unfold Starts; decide⟩
  | @record members _ => cases members <;> exact ⟨_, _, rfl, by unfold Starts; decide⟩

/-- A value that starts like a number is read as a number. -/
theorem value_eq_number {c : Char} (hc : Decimal.isNumeralCharacter c = true) (fuel : Nat)
    (rest : List Char) : value (fuel + 1) (c :: rest) = number (c :: rest) := by
  rw [value, (starts_of_isNumeralCharacter hc).skipBlank_cons]
  split
  case h_7 => rfl
  all_goals
    next heq => exact absurd (List.cons.inj heq).1 (ne_of_holds hc rfl)

/-- A datum is read from its text, whatever closes it. The length of the text is fuel enough. -/
def Reads (d : Datum) : Prop :=
  ∀ fuel rest, Closes rest → (characters d).length ≤ fuel →
    value fuel (characters d ++ rest) = some (d, rest)

theorem closes_itemsAfter (items : List Datum) (rest : List Char) :
    Closes (itemsAfter items ++ rest) := by
  cases items with
  | nil => exact closes_cons (.inr (.inl rfl)) _
  | cons item items => exact closes_cons (.inl rfl) _

theorem closes_membersAfter (members : List (String × Datum)) (rest : List Char) :
    Closes (membersAfter members ++ rest) := by
  cases members with
  | nil => exact closes_cons (.inr (.inr rfl)) _
  | cons member members => exact closes_cons (.inl rfl) _

/-- An item that a bracket closes is the last one. -/
theorem items_last {fuel : Nat} {input after : List Char} {item : Datum}
    (hitem : value fuel input = some (item, ']' :: after)) :
    items (fuel + 1) input = some ([item], after) := by
  rw [items, hitem]
  rfl

/-- An item that a comma closes is followed by others. -/
theorem items_next {fuel : Nat} {input after last : List Char} {item : Datum} {list : List Datum}
    (hitem : value fuel input = some (item, ',' :: after))
    (hitems : items fuel after = some (list, last)) :
    items (fuel + 1) input = some (item :: list, last) := by
  have hcomma : skipBlank (',' :: after) = ',' :: after := rfl
  rw [items, hitem]
  simp only [hcomma, hitems]

/-- The items of a sequence and its closing bracket are read as the items. -/
theorem items_itemsAfter {first : Datum} {others : List Datum}
    (hreads : ∀ item ∈ first :: others, Reads item) (fuel : Nat) (rest : List Char)
    (hfuel : (characters first ++ itemsAfter others).length ≤ fuel) :
    items fuel (characters first ++ (itemsAfter others ++ rest)) =
      some (first :: others, rest) := by
  induction others generalizing first fuel with
  | nil =>
    rw [List.forall_mem_cons] at hreads
    rw [List.length_append, itemsAfter, List.length_singleton] at hfuel
    obtain ⟨fuel, rfl⟩ := Nat.exists_eq_add_of_le' (show 1 ≤ fuel by omega)
    exact items_last (hreads.1 fuel _ (closes_itemsAfter [] rest) (by omega))
  | cons second others ih =>
    rw [List.forall_mem_cons] at hreads
    rw [List.length_append, itemsAfter, List.length_cons] at hfuel
    obtain ⟨fuel, rfl⟩ := Nat.exists_eq_add_of_le' (show 1 ≤ fuel by omega)
    have hfirst := hreads.1 fuel _ (closes_itemsAfter (second :: others) rest) (by omega)
    have hothers := ih hreads.2 fuel (by omega)
    rw [← List.append_assoc] at hothers
    exact items_next hfirst hothers

/-- A member that a brace closes is the last one. -/
theorem members_last (name : String) {fuel : Nat} {start after : List Char} {member : Datum}
    (hmember : value fuel start = some (member, '}' :: after)) :
    members (fuel + 1) (literal name ++ ':' :: start) = some ([(some name, member)], after) := by
  obtain ⟨quoted, hquoted, hliteral⟩ := literal_append name (':' :: start)
  have hopen : skipBlank ('"' :: quoted) = '"' :: quoted := rfl
  have hcolon : skipBlank (':' :: start) = ':' :: start := rfl
  have hclose : skipBlank ('}' :: after) = '}' :: after := rfl
  rw [members, hquoted, hopen]
  simp only [hliteral, hcolon, hmember, hclose]

/-- A member that a comma closes is followed by others. -/
theorem members_next (name : String) {fuel : Nat} {start after last : List Char} {member : Datum}
    {list : List (Option String × Datum)}
    (hmember : value fuel start = some (member, ',' :: after))
    (hmembers : members fuel after = some (list, last)) :
    members (fuel + 1) (literal name ++ ':' :: start) =
      some ((some name, member) :: list, last) := by
  obtain ⟨quoted, hquoted, hliteral⟩ := literal_append name (':' :: start)
  have hopen : skipBlank ('"' :: quoted) = '"' :: quoted := rfl
  have hcolon : skipBlank (':' :: start) = ':' :: start := rfl
  have hcomma : skipBlank (',' :: after) = ',' :: after := rfl
  rw [members, hquoted, hopen]
  simp only [hliteral, hcolon, hmember, hcomma, hmembers]

/-- The members of a record and its closing brace are read as the members. -/
theorem members_membersAfter {name : String} {first : Datum} {others : List (String × Datum)}
    (hreads : ∀ member ∈ (name, first) :: others, Reads member.2) (fuel : Nat) (rest : List Char)
    (hfuel : (literal name ++ ':' :: (characters first ++ membersAfter others)).length ≤ fuel) :
    members fuel (literal name ++ ':' :: (characters first ++ (membersAfter others ++ rest))) =
      some (((name, first) :: others).map fun member ↦ (some member.1, member.2), rest) := by
  induction others generalizing name first fuel with
  | nil =>
    rw [List.forall_mem_cons] at hreads
    simp only [List.length_append, List.length_cons, membersAfter] at hfuel
    obtain ⟨fuel, rfl⟩ := Nat.exists_eq_add_of_le' (show 1 ≤ fuel by omega)
    have hfirst : Reads first := hreads.1
    exact members_last name (hfirst fuel _ (closes_membersAfter [] rest) (by omega))
  | cons second others ih =>
    obtain ⟨next, second⟩ := second
    rw [List.forall_mem_cons] at hreads
    simp only [List.length_append, List.length_cons, membersAfter] at hfuel
    obtain ⟨fuel, rfl⟩ := Nat.exists_eq_add_of_le' (show 1 ≤ fuel by omega)
    have hfirst : Reads first := hreads.1
    replace hfirst := hfirst fuel _ (closes_membersAfter ((next, second) :: others) rest)
      (by omega)
    have hrest := ih hreads.2 fuel (by
      simp only [List.length_append, List.length_cons]
      omega)
    simp only [membersAfter, List.cons_append, List.append_assoc] at hfirst hrest ⊢
    exact members_next name hfirst hrest

theorem namesRead_map (members : List (String × Datum)) :
    namesRead (members.map fun member ↦ (some member.1, member.2)) = some members := by
  induction members with
  | nil => rfl
  | cons member members ih =>
    rw [List.map_cons, namesRead, ih]
    rfl

/-- A value behind a quote is the text of the literal. -/
theorem value_quote {quoted after : List Char} {text : String}
    (hliteral : literalOnto [] true quoted = some (some text, after)) (fuel : Nat) :
    value (fuel + 1) ('"' :: quoted) = some (.text text, after) := by
  have hopen : skipBlank ('"' :: quoted) = '"' :: quoted := rfl
  rw [value, hopen]
  simp only [hliteral]

/-- A value behind a bracket that is not closed at once is a sequence of items. -/
theorem value_bracket {fuel : Nat} {c : Char} {rest after : List Char} {list : List Datum}
    (hc : Starts c) (hitems : items fuel (c :: rest) = some (list, after)) :
    value (fuel + 1) ('[' :: c :: rest) = some (.sequence list, after) := by
  have hopen : skipBlank ('[' :: c :: rest) = '[' :: c :: rest := rfl
  rw [value, hopen]
  simp only [hc.skipBlank_cons]
  split
  · next heq => exact absurd (List.cons.inj heq).1 hc.2.2.2.2
  · rw [hitems]

/-- A value behind a brace and a quote is a record of members, whose names are all read. -/
theorem value_brace {fuel : Nat} {quoted after : List Char} {list : List (String × Datum)}
    (hmembers : members fuel ('"' :: quoted) =
      some (list.map fun member ↦ (some member.1, member.2), after)) :
    value (fuel + 1) ('{' :: '"' :: quoted) = some (.record list, after) := by
  have hopen : skipBlank ('{' :: '"' :: quoted) = '{' :: '"' :: quoted := rfl
  have hquote : skipBlank ('"' :: quoted) = '"' :: quoted := rfl
  rw [value, hopen]
  simp only [hquote]
  split
  · next heq => cases heq
  · simp only [hmembers, namesRead_map]

/-- Every plain datum is read from its text. -/
theorem reads_of_plain {d : Datum} (hd : d.Plain) : Reads d := by
  -- A text has a character at least, so that there is fuel for the datum itself; the texts of its
  -- parts are shorter than its own, so that what is left is enough for them.
  induction hd with
  | null =>
    rintro (_ | fuel) rest hrest hfuel
    · cases hfuel
    · rfl
  | boolean value =>
    rintro (_ | fuel) rest hrest hfuel
    · cases value <;> cases hfuel
    · cases value <;> rfl
  | integer value =>
    rintro fuel rest hrest hfuel
    obtain ⟨c, cs, hcharacters, hc⟩ := Decimal.exists_characters_eq_cons value
    rw [characters, hcharacters, List.length_cons] at hfuel
    obtain ⟨fuel, rfl⟩ := Nat.exists_eq_add_of_le' (show 1 ≤ fuel by omega)
    have hnumber := number_characters value hrest
    rw [hcharacters, List.cons_append] at hnumber
    rw [characters, hcharacters, List.cons_append, value_eq_number hc, hnumber]
  | text value =>
    rintro fuel rest hrest hfuel
    rw [characters, literal, List.length_cons] at hfuel
    obtain ⟨fuel, rfl⟩ := Nat.exists_eq_add_of_le' (show 1 ≤ fuel by omega)
    obtain ⟨quoted, hquoted, hliteral⟩ := literal_append value rest
    rw [characters, hquoted, value_quote hliteral]
  | @sequence list hlist ih =>
    rintro fuel rest hrest hfuel
    rcases list with _ | ⟨first, others⟩
    · rcases fuel with _ | fuel
      · cases hfuel
      · rfl
    · rw [characters, List.length_cons] at hfuel
      obtain ⟨fuel, rfl⟩ := Nat.exists_eq_add_of_le' (show 1 ≤ fuel by omega)
      obtain ⟨c, cs, hfirst, hc⟩ := exists_characters_eq_cons (hlist first List.mem_cons_self)
      have hitems := items_itemsAfter ih fuel rest (by omega)
      rw [hfirst, List.cons_append] at hitems
      rw [characters, hfirst]
      simp only [List.cons_append, List.append_assoc]
      exact value_bracket hc hitems
  | @record list hlist ih =>
    rintro fuel rest hrest hfuel
    rcases list with _ | ⟨⟨name, first⟩, others⟩
    · rcases fuel with _ | fuel
      · cases hfuel
      · rfl
    · rw [characters, List.length_cons] at hfuel
      obtain ⟨fuel, rfl⟩ := Nat.exists_eq_add_of_le' (show 1 ≤ fuel by omega)
      have hmembers := members_membersAfter ih fuel rest (by omega)
      rw [literal, List.cons_append] at hmembers
      rw [characters, literal]
      simp only [List.cons_append, List.append_assoc] at hmembers ⊢
      exact value_brace hmembers

/-- The text of a plain datum holds that datum. -/
theorem read?_write {d : Datum} (hd : d.Plain) : read? (write d) = some d := by
  have hread := reads_of_plain hd ((characters d).length + 1) [] closes_nil (Nat.le_succ _)
  rw [List.append_nil] at hread
  rw [write, read?, String.toList_ofList, hread]
  rfl

/-- Plain data with the same text are the same. -/
theorem write_injective {d other : Datum} (hd : d.Plain) (hother : other.Plain)
    (hwrite : write d = write other) : d = other := by
  have hread := read?_write hd
  rw [hwrite, read?_write hother] at hread
  exact (Option.some.inj hread).symm

end Json

end PageCapture
