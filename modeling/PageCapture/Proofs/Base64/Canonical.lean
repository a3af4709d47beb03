import Mathlib.Algebra.Group.Nat.Defs
import PageCapture.Proofs.Action.Checked
import PageCapture.Proofs.Base64.RoundTrip

/-!
# One text for each row of bytes

`decode_canonical` says which texts are read, and that no text is read as bytes that it is not the
text of. The format has one text for each row of bytes: a symbol stands for six bits, the symbols in
a row stand for the bits of the bytes and fewer than six bits behind them, and these are zero
(`Spells`). `encode` writes that text and `decode` reads no other. So padding, a line break, a
number of symbols that is one more than a multiple of four and unused bits that are not zero are
refused wherever they stand, and a text without any of them is `Canonical` and is read.

Reading a group is undone by writing it (`sextets_triple`). From that every part of the reader is
inverted: the groups that something follows (`eq_of_groupsOnto`), the last group (`eq_of_lastGroup`)
and its bytes (`symbols_of_lastBytes?`).
-/

set_option autoImplicit false
set_option relaxedAutoImplicit false

namespace PageCapture.Base64

/-! ### Symbols -/

/-- The symbols in the order of the numbers that they stand for. -/
def alphabet : List Char :=
  "ABCDEFGHIJKLMNOPQRSTUVWXYZabcdefghijklmnopqrstuvwxyz0123456789+/".toList

/-- The number that a symbol stands for. -/
def number (c : Char) : Nat := alphabet.idxOf c

/-- The symbols are the characters of the numbers below sixty-four. -/
theorem characters_eq : (List.range 64).map character = alphabet := by decide

theorem idxOf_character : ∀ n : Fin 64, alphabet.idxOf (character n.val) = n.val := by decide

theorem number_character {n : Nat} (hn : n < 64) : number (character n) = n :=
  idxOf_character ⟨n, hn⟩

theorem character_mem {n : Nat} (hn : n < 64) : character n ∈ alphabet := by
  rw [← characters_eq]
  exact List.mem_map_of_mem (List.mem_range.mpr hn)

/-- A symbol is the character of its number. -/
theorem character_number {c : Char} (hc : c ∈ alphabet) :
    number c < 64 ∧ character (number c) = c := by
  rw [← characters_eq] at hc
  obtain ⟨n, hn, rfl⟩ := List.mem_map.mp hc
  rw [List.mem_range] at hn
  rw [number_character hn]
  exact ⟨hn, rfl⟩

/-- The numbers of a text of symbols are below sixty-four. -/
theorem number_lt {text : String} (htext : ∀ c ∈ text.toList, c ∈ alphabet) :
    ∀ n ∈ text.toList.map number, n < 64 := by
  intro n hn
  obtain ⟨c, hc, rfl⟩ := List.mem_map.mp hn
  exact (character_number (htext c hc)).1

/-- A text of symbols with the numbers of bytes is the text of the bytes. -/
theorem eq_encode_of_numbers {text : String} {bytes : List UInt8}
    (htext : ∀ c ∈ text.toList, c ∈ alphabet) (hnumbers : text.toList.map number = symbols bytes) :
    text = encode bytes := by
  have hback : text.toList.map (character ∘ number) = text.toList.map id :=
    List.map_congr_left fun c hc ↦ (character_number (htext c hc)).2
  rw [encode, ← hnumbers, List.map_map, hback, List.map_id, String.ofList_toList]

/-- The text of bytes consists of symbols, with the numbers of the bytes. -/
theorem numbers_encode (bytes : List UInt8) :
    (∀ c ∈ (encode bytes).toList, c ∈ alphabet) ∧
      (encode bytes).toList.map number = symbols bytes := by
  rw [encode, String.toList_ofList]
  constructor
  · intro c hc
    obtain ⟨n, hn, rfl⟩ := List.mem_map.mp hc
    exact character_mem (symbols_lt bytes n hn)
  · have hback : (symbols bytes).map (number ∘ character) = (symbols bytes).map id :=
      List.map_congr_left fun n hn ↦ number_character (symbols_lt bytes n hn)
    rw [List.map_map, hback, List.map_id]

theorem symbols_singleton (a : UInt8) :
    symbols [a] = [(sextets a 0 0).1, (sextets a 0 0).2.1] :=
  rfl

theorem symbols_pair (a b : UInt8) :
    symbols [a, b] = [(sextets a b 0).1, (sextets a b 0).2.1, (sextets a b 0).2.2.1] :=
  rfl

/-! ### What a text spells -/

/-- The last bits of a number, the most significant first. -/
def bits (width n : Nat) : List Nat :=
  (List.range width).reverse.map fun place ↦ n / 2 ^ place % 2

/-- A text spells bytes: it consists of symbols, and the six bits of each, one after the other, are
the bits of the bytes and fewer than six zeros behind them. -/
def Spells (text : String) (bytes : List UInt8) : Prop :=
  (∀ c ∈ text.toList, c ∈ alphabet) ∧ ∃ unused < 6,
    text.toList.flatMap (fun c ↦ bits 6 (number c)) =
      bytes.flatMap (fun byte ↦ bits 8 byte.toNat) ++ List.replicate unused 0

@[simp]
theorem length_bits (width n : Nat) : (bits width n).length = width := by
  simp [bits]

theorem bits_six (n : Nat) :
    bits 6 n = [n / 32 % 2, n / 16 % 2, n / 8 % 2, n / 4 % 2, n / 2 % 2, n % 2] := by
  simp [bits, List.range_succ]

theorem bits_eight (n : Nat) :
    bits 8 n = [n / 128 % 2, n / 64 % 2, n / 32 % 2, n / 16 % 2, n / 8 % 2, n / 4 % 2, n / 2 % 2,
      n % 2] := by
  simp [bits, List.range_succ]

/-- Six bits tell the numbers of the symbols apart. -/
theorem bits_injective {n m : Nat} (hn : n < 64) (hm : m < 64) (hbits : bits 6 n = bits 6 m) :
    n = m := by
  simp only [bits_six, List.cons.injEq, and_true] at hbits
  omega

/-- The bits of four symbols are those of the three bytes that they are written for. -/
theorem bits_sextets (a b c : UInt8) :
    bits 6 (sextets a b c).1 ++ bits 6 (sextets a b c).2.1 ++ bits 6 (sextets a b c).2.2.1 ++
        bits 6 (sextets a b c).2.2.2 =
      bits 8 a.toNat ++ bits 8 b.toNat ++ bits 8 c.toNat := by
  have ha := a.toNat_lt
  have hb := b.toNat_lt
  have hc := c.toNat_lt
  simp only [bits_six, bits_eight, sextets, List.cons_append, List.nil_append, List.cons.injEq,
    and_true]
  omega

/-- The bits of the symbols for bytes are those of the bytes and fewer than six zeros. -/
theorem bits_symbols (bytes : List UInt8) : ∃ unused < 6,
    (symbols bytes).flatMap (bits 6) =
      bytes.flatMap (fun byte ↦ bits 8 byte.toNat) ++ List.replicate unused 0 := by
  match bytes with
  | [] => exact ⟨0, by decide, rfl⟩
  | [a] =>
    have ha := a.toNat_lt
    refine ⟨4, by decide, ?_⟩
    simp only [symbols_singleton, sextets, UInt8.toNat_zero, List.flatMap_cons,
      List.flatMap_nil, List.append_nil, List.cons_append, List.nil_append, bits_six, bits_eight,
      List.replicate, List.cons.injEq, and_true]
    omega
  | [a, b] =>
    have ha := a.toNat_lt
    have hb := b.toNat_lt
    refine ⟨2, by decide, ?_⟩
    simp only [symbols_pair, sextets, UInt8.toNat_zero, List.flatMap_cons,
      List.flatMap_nil, List.append_nil, List.cons_append, List.nil_append, bits_six, bits_eight,
      List.replicate, List.cons.injEq, and_true]
    omega
  | a :: b :: c :: rest =>
    obtain ⟨unused, hunused, hrest⟩ := bits_symbols rest
    refine ⟨unused, hunused, ?_⟩
    have hgroup := bits_sextets a b c
    simp only [symbols_cons_cons_cons, List.flatMap_cons, hrest, ← List.append_assoc]
    rw [hgroup]

theorem length_flatMap_bits (numbers : List Nat) :
    (numbers.flatMap (bits 6)).length = 6 * numbers.length := by
  simp [List.length_flatMap, List.map_const', Nat.mul_comm]

/-- Numbers of symbols with the same bits are the same. -/
theorem eq_of_flatMap_bits {numbers others : List Nat} (hnumbers : ∀ n ∈ numbers, n < 64)
    (hothers : ∀ n ∈ others, n < 64) (hbits : numbers.flatMap (bits 6) = others.flatMap (bits 6)) :
    numbers = others := by
  have hcount : numbers.length = others.length := by
    have hlength := congrArg List.length hbits
    rw [length_flatMap_bits, length_flatMap_bits] at hlength
    omega
  induction numbers generalizing others with
  | nil =>
    cases others with
    | nil => rfl
    | cons m others => simp at hcount
  | cons n numbers ih =>
    cases others with
    | nil => simp at hcount
    | cons m others =>
      rw [List.forall_mem_cons] at hnumbers hothers
      rw [List.flatMap_cons, List.flatMap_cons] at hbits
      obtain ⟨hfirst, hrest⟩ := List.append_inj hbits (by rw [length_bits, length_bits])
      rw [bits_injective hnumbers.1 hothers.1 hfirst,
        ih hnumbers.2 hothers.2 hrest (by simpa using hcount)]

/-- There is one text that spells bytes: theirs. -/
theorem spells_iff {text : String} {bytes : List UInt8} :
    Spells text bytes ↔ text = encode bytes := by
  obtain ⟨unused, hunused, hbits⟩ := bits_symbols bytes
  have hlength := congrArg List.length hbits
  rw [length_flatMap_bits, List.length_append, List.length_replicate] at hlength
  constructor
  · rintro ⟨htext, more, hmore, hspelled⟩
    rw [← List.flatMap_map] at hspelled
    -- As many zeros are left over: their number is the rest of the number of bits.
    have hsame : more = unused := by
      have hcount := congrArg List.length hspelled
      rw [length_flatMap_bits, List.length_append, List.length_replicate] at hcount
      omega
    rw [hsame, ← hbits] at hspelled
    exact eq_encode_of_numbers htext
      (eq_of_flatMap_bits (number_lt htext) (symbols_lt bytes) hspelled)
  · rintro rfl
    obtain ⟨hsymbols, hnumbers⟩ := numbers_encode bytes
    refine ⟨hsymbols, unused, hunused, ?_⟩
    rw [← List.flatMap_map, hnumbers, hbits]

/-! ### Numbers that fill bytes -/

/-- Numbers of symbols that fill bytes: no symbol stands alone behind the groups of four, and the
bits that the last one has over are zero. -/
def Filled (numbers : List Nat) : Prop :=
  numbers.length % 4 ≠ 1 ∧ ∀ n ∈ numbers.getLast?,
    (numbers.length % 4 = 2 → n % 16 = 0) ∧ (numbers.length % 4 = 3 → n % 4 = 0)

/-- A text that is read: it consists of symbols, and they fill bytes. -/
structure Canonical (text : String) : Prop where
  symbols : ∀ c ∈ text.toList, c ∈ alphabet
  filled : Filled (text.toList.map number)

theorem filled_two {p q : Nat} : Filled [p, q] ↔ q % 16 = 0 := by
  simp [Filled]

theorem filled_three {p q r : Nat} : Filled [p, q, r] ↔ r % 4 = 0 := by
  simp [Filled]

/-- A group of four in front does not count. -/
theorem filled_group (p q r s : Nat) (rest : List Nat) :
    Filled (p :: q :: r :: s :: rest) ↔ Filled rest := by
  cases rest with
  | nil => simp [Filled]
  | cons n rest =>
    have hlength : (p :: q :: r :: s :: n :: rest).length % 4 = (n :: rest).length % 4 := by
      simp only [List.length_cons]
      omega
    simp only [Filled, hlength, List.getLast?_cons_cons]

/-- The three bytes that four symbols write are written as these symbols. -/
theorem sextets_triple {p q r s : Nat} (hp : p < 64) (hq : q < 64) (hr : r < 64) (hs : s < 64) :
    sextets (triple p q r s).1 (triple p q r s).2.1 (triple p q r s).2.2 = (p, q, r, s) := by
  simp only [sextets, triple, UInt8.toNat_ofNat', Prod.mk.injEq]
  omega

/-- The bytes of the last group are written as its symbols. -/
theorem symbols_of_lastBytes? {numbers : List Nat} {bytes : List UInt8}
    (hnumbers : ∀ n ∈ numbers, n < 64) (hcount : 2 ≤ numbers.length) (hfour : numbers.length ≤ 4)
    (hbytes : lastBytes? numbers = some bytes) : symbols bytes = numbers := by
  match numbers with
  | [] | [_] => simp at hcount
  | [p, q] =>
    simp only [List.mem_cons, List.not_mem_nil, or_false, forall_eq_or_imp, forall_eq] at hnumbers
    simp only [lastBytes?, Option.ite_none_right_eq_some, Option.some.injEq] at hbytes
    obtain ⟨hunused, rfl⟩ := hbytes
    simp only [symbols_singleton, sextets, triple, UInt8.toNat_ofNat', UInt8.toNat_zero,
      List.cons.injEq, and_true]
    omega
  | [p, q, r] =>
    simp only [List.mem_cons, List.not_mem_nil, or_false, forall_eq_or_imp, forall_eq] at hnumbers
    simp only [lastBytes?, Option.ite_none_right_eq_some, Option.some.injEq] at hbytes
    obtain ⟨hunused, rfl⟩ := hbytes
    simp only [symbols_pair, sextets, triple, UInt8.toNat_ofNat', UInt8.toNat_zero,
      List.cons.injEq, and_true]
    omega
  | [p, q, r, s] =>
    simp only [List.mem_cons, List.not_mem_nil, or_false, forall_eq_or_imp, forall_eq] at hnumbers
    obtain ⟨hp, hq, hr, hs⟩ := hnumbers
    simp only [lastBytes?, Option.some.injEq] at hbytes
    rw [← hbytes, symbols_cons_cons_cons, sextets_triple hp hq hr hs]
    rfl
  | _ :: _ :: _ :: _ :: _ :: rest =>
    simp only [List.length_cons] at hfour
    omega

/-- Numbers that fill bytes are those of some bytes. -/
theorem exists_symbols {numbers : List Nat} (hnumbers : ∀ n ∈ numbers, n < 64)
    (hfilled : Filled numbers) : ∃ bytes, symbols bytes = numbers := by
  match numbers with
  | [] => exact ⟨[], rfl⟩
  | [p] => simp [Filled] at hfilled
  | [p, q] =>
    exact ⟨_, symbols_of_lastBytes? hnumbers (by simp) (by simp) (if_pos (filled_two.mp hfilled))⟩
  | [p, q, r] =>
    exact ⟨_, symbols_of_lastBytes? hnumbers (by simp) (by simp) (if_pos (filled_three.mp hfilled))⟩
  | p :: q :: r :: s :: rest =>
    simp only [List.forall_mem_cons] at hnumbers
    obtain ⟨hp, hq, hr, hs, hrest⟩ := hnumbers
    obtain ⟨bytes, hbytes⟩ := exists_symbols hrest ((filled_group p q r s rest).mp hfilled)
    refine ⟨(triple p q r s).1 :: (triple p q r s).2.1 :: (triple p q r s).2.2 :: bytes, ?_⟩
    rw [symbols_cons_cons_cons, sextets_triple hp hq hr hs, hbytes]

/-- The numbers of bytes fill them. -/
theorem filled_symbols (bytes : List UInt8) : Filled (symbols bytes) := by
  match bytes with
  | [] => simp [Filled, symbols, sextetsOnto]
  | [a] =>
    rw [symbols_singleton, filled_two]
    simp only [sextets, UInt8.toNat_zero]
    omega
  | [a, b] =>
    rw [symbols_pair, filled_three]
    simp only [sextets, UInt8.toNat_zero]
    omega
  | a :: b :: c :: rest =>
    rw [symbols_cons_cons_cons, filled_group]
    exact filled_symbols rest

/-! ### Reading backwards -/

theorem of_symbolAt {offset : Nat} {byte : UInt8} {n : Nat} (hread : symbolAt offset byte = .ok n) :
    n < 64 ∧ symbol n = byte := by
  unfold symbolAt at hread
  split at hread
  · rename_i m hvalue
    cases hread
    exact symbol_value? hvalue
  · cases hread

/-- Groups of three bytes in front are written in front. -/
theorem symbols_append {front : List UInt8} (hfront : front.length % 3 = 0) (last : List UInt8) :
    symbols (front ++ last) = symbols front ++ symbols last := by
  match front with
  | [] => rfl
  | [_] | [_, _] => simp at hfront
  | a :: b :: c :: rest =>
    have hrest : rest.length % 3 = 0 := by
      simp only [List.length_cons] at hfront
      omega
    simp only [List.cons_append, symbols_cons_cons_cons, symbols_append hrest last]

/-- Groups that are read, with something behind them, are the symbols of the bytes they are read
as. -/
theorem eq_of_groupsOnto {read input out last : List UInt8} {offset next : Nat}
    (hread : groupsOnto read offset input = .ok (out, next, last)) :
    ∃ front, front.length % 3 = 0 ∧ out = front.reverse ++ read ∧
      input = (symbols front).map symbol ++ last ∧ last.length ≤ 4 := by
  match input with
  | a :: b :: c :: d :: e :: rest =>
    obtain ⟨p, hp, hafter⟩ := exists_of_bind hread
    obtain ⟨q, hq, hbehind⟩ := exists_of_bind hafter
    obtain ⟨r, hr, hnext⟩ := exists_of_bind hbehind
    obtain ⟨s, hs, hlast⟩ := exists_of_bind hnext
    obtain ⟨hpBound, rfl⟩ := of_symbolAt hp
    obtain ⟨hqBound, rfl⟩ := of_symbolAt hq
    obtain ⟨hrBound, rfl⟩ := of_symbolAt hr
    obtain ⟨hsBound, rfl⟩ := of_symbolAt hs
    have hgroups : groupsOnto ((triple p q r s).2.2 :: (triple p q r s).2.1 ::
        (triple p q r s).1 :: read) (offset + 4) (e :: rest) = .ok (out, next, last) := hlast
    obtain ⟨front, hfront, rfl, hinput, hlength⟩ := eq_of_groupsOnto hgroups
    refine ⟨(triple p q r s).1 :: (triple p q r s).2.1 :: (triple p q r s).2.2 :: front, ?_, ?_, ?_,
      hlength⟩
    · simp only [List.length_cons]
      omega
    · simp
    · rw [hinput, symbols_cons_cons_cons, sextets_triple hpBound hqBound hrBound hsBound]
      rfl
  | [] | [_] | [_, _] | [_, _, _] | [_, _, _, _] =>
    cases hread
    exact ⟨[], rfl, rfl, rfl, by simp⟩

/-- A last group that is read without padding consists of the symbols of its numbers. -/
theorem eq_of_lastGroup {offset place : Nat} {values : List Nat} {padding? : Option Nat}
    {input : List UInt8} {group : LastGroup}
    (hread : lastGroup offset values padding? place input = .ok group)
    (hpadding : group.padding? = none) :
    padding? = none ∧ ∃ numbers, group.values = values ++ numbers ∧ (∀ n ∈ numbers, n < 64) ∧
      input = numbers.map symbol := by
  induction input generalizing values padding? place with
  | nil =>
    cases hread
    exact ⟨hpadding, [], by simp⟩
  | cons byte rest ih =>
    unfold lastGroup at hread
    by_cases hpad : byte = padding
    · -- Behind padding that has been met the group has some, whatever follows.
      rw [if_pos hpad] at hread
      by_cases hearly : place < 2
      · rw [if_pos hearly] at hread
        cases hread
      · rw [if_neg hearly] at hread
        exact absurd (ih hread).1 (Option.some_ne_none _)
    · rw [if_neg hpad] at hread
      cases padding? with
      | some first => cases hread
      | none =>
        obtain ⟨n, hn, hafter⟩ := exists_of_bind hread
        obtain ⟨hbound, rfl⟩ := of_symbolAt hn
        obtain ⟨-, numbers, hvalues, hnumbers, rfl⟩ := ih hafter
        refine ⟨rfl, n :: numbers, by simp [hvalues], ?_, rfl⟩
        exact List.forall_mem_cons.mpr ⟨hbound, hnumbers⟩

/-- A row of symbols that is read consists of the symbols of the bytes it is read as. -/
theorem eq_of_decodeBytes {input bytes : List UInt8} (hread : decodeBytes input = .ok bytes) :
    input = (symbols bytes).map symbol := by
  unfold decodeBytes at hread
  split at hread
  · rename_i hempty
    cases hread
    rw [List.getLast?_eq_none_iff.mp hempty]
    rfl
  · split at hread
    · cases hread
    obtain ⟨⟨read, offset, last⟩, hgroups, hafter⟩ := exists_of_bind hread
    obtain ⟨group, hgroup, hbehind⟩ := exists_of_bind hafter
    by_cases hcount : group.values.length < 2
    · rw [if_pos hcount] at hbehind
      cases hbehind
    rw [if_neg hcount] at hbehind
    by_cases hpadding : group.padding?.isSome
    · simp only [if_pos hpadding] at hbehind
      cases hbehind
    simp only [if_neg hpadding] at hbehind
    rcases hlast : lastBytes? group.values with _ | bytesBehind
    · rw [hlast] at hbehind
      cases hbehind
    rw [hlast] at hbehind
    -- The groups in front and the last group are both written as they were read.
    obtain ⟨front, hfront, rfl, hinput, hfour⟩ := eq_of_groupsOnto hgroups
    obtain ⟨-, numbers, hvalues, hnumbers, rfl⟩ :=
      eq_of_lastGroup hgroup (Option.not_isSome_iff_eq_none.mp hpadding)
    rw [List.nil_append] at hvalues
    rw [List.length_map] at hfour
    rw [hvalues] at hlast hcount
    have hwritten := symbols_of_lastBytes? hnumbers (Nat.not_lt.mp hcount) hfour hlast
    have hbytes : front ++ bytesBehind = bytes := by
      have hdone := Except.ok.inj hbehind
      simpa using hdone
    rw [← hbytes, symbols_append hfront, hwritten, List.map_append, hinput]

/-! ### Texts -/

/-- A text is read as bytes exactly when it is the text of the bytes. -/
theorem decode_eq_ok_iff {text : String} {bytes : List UInt8} :
    decode text = .ok bytes ↔ text = encode bytes := by
  constructor
  · intro hread
    have hsymbols := eq_of_decodeBytes hread
    rw [← toUTF8_characters (symbols_lt bytes)] at hsymbols
    exact String.toByteArray_inj.mp (ByteArray.ext (Array.toList_inj.mp hsymbols))
  · rintro rfl
    exact decode_encode bytes

/-- A text is canonical exactly when it is the text of some bytes. -/
theorem canonical_iff {text : String} : Canonical text ↔ ∃ bytes, text = encode bytes := by
  constructor
  · rintro ⟨htext, hfilled⟩
    obtain ⟨bytes, hbytes⟩ := exists_symbols (number_lt htext) hfilled
    exact ⟨bytes, eq_encode_of_numbers htext hbytes.symm⟩
  · rintro ⟨bytes, rfl⟩
    obtain ⟨hsymbols, hnumbers⟩ := numbers_encode bytes
    exact ⟨hsymbols, by rw [hnumbers]; exact filled_symbols bytes⟩

/-- The format has one text for each row of bytes, and no other text is read. A text is read as
bytes if and only if it is what they are written as, and that is so if and only if the bits of its
symbols are the bits of the bytes and fewer than six zeros. What is refused is every text with a
character that is not a symbol (padding and line breaks among them), with a symbol alone behind the
groups of four, or with an unused bit that is not zero. -/
theorem decode_canonical (text : String) :
    (∀ bytes, decode text = .ok bytes ↔ text = encode bytes) ∧
      (∀ bytes, text = encode bytes ↔ Spells text bytes) ∧
      ((∃ bytes, decode text = .ok bytes) ↔ Canonical text) := by
  refine ⟨fun bytes ↦ decode_eq_ok_iff, fun bytes ↦ spells_iff.symm, ?_⟩
  rw [canonical_iff]
  exact exists_congr fun bytes ↦ decode_eq_ok_iff

end PageCapture.Base64
