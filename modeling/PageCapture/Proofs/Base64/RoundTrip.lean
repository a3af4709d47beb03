import PageCapture.Base64

/-!
# Transport text there and back

`decode_encode` says that the bytes written as a transport text are read back from it, whatever they
are. Four symbols give back the three bytes they were written for (`triple_sextets`), so the
groups that are followed by another one are read (`groupsOnto_symbols`), and the last group holds
the one to three bytes that are left (`lastBytes?_symbols`). A text is empty exactly when there are
no bytes (`encode_eq_empty_iff`), and different bytes have different texts (`encode_injective`).
Whatever is written, a text consists of letters, digits, plus and slash (`mem_encode`).
-/

set_option autoImplicit false
set_option relaxedAutoImplicit false

namespace PageCapture.Base64

/-! ### One group -/

/-- The byte that is the rest of a number. -/
theorem ofNat_eq_of_mod {n : Nat} {byte : UInt8} (hmod : n % 256 = byte.toNat) :
    UInt8.ofNat n = byte :=
  UInt8.toNat_inj.mp (by rw [UInt8.toNat_ofNat', ← hmod])

/-- The numbers for three bytes are below sixty-four. -/
theorem sextets_lt (a b c : UInt8) :
    (sextets a b c).1 < 64 ∧ (sextets a b c).2.1 < 64 ∧ (sextets a b c).2.2.1 < 64 ∧
      (sextets a b c).2.2.2 < 64 := by
  have ha := a.toNat_lt
  have hb := b.toNat_lt
  have hc := c.toNat_lt
  simp only [sextets]
  omega

/-- Four symbols write the three bytes that they are written for. -/
theorem triple_sextets (a b c : UInt8) :
    triple (sextets a b c).1 (sextets a b c).2.1 (sextets a b c).2.2.1 (sextets a b c).2.2.2 =
      (a, b, c) := by
  have ha := a.toNat_lt
  have hb := b.toNat_lt
  have hc := c.toNat_lt
  simp only [triple, sextets, Prod.mk.injEq]
  refine ⟨ofNat_eq_of_mod ?_, ofNat_eq_of_mod ?_, ofNat_eq_of_mod ?_⟩ <;> omega

/-! ### The symbols of a row of bytes -/

theorem symbols_lt (bytes : List UInt8) : ∀ n ∈ symbols bytes, n < 64 := by
  match bytes with
  | [] => simp [symbols, sextetsOnto]
  | [a] =>
    obtain ⟨hp, hq, -, -⟩ := sextets_lt a 0 0
    simpa [symbols, sextetsOnto] using ⟨hp, hq⟩
  | [a, b] =>
    obtain ⟨hp, hq, hr, -⟩ := sextets_lt a b 0
    simpa [symbols, sextetsOnto] using ⟨hp, hq, hr⟩
  | a :: b :: c :: rest =>
    obtain ⟨hp, hq, hr, hs⟩ := sextets_lt a b c
    rw [symbols_cons_cons_cons]
    simpa using ⟨hp, hq, hr, hs, symbols_lt rest⟩

theorem symbols_ne_nil {bytes : List UInt8} (hbytes : bytes ≠ []) : symbols bytes ≠ [] := by
  match bytes with
  | [a] | [a, b] => simp [symbols, sextetsOnto]
  | a :: b :: c :: rest => simp [symbols_cons_cons_cons]

/-- The symbol of a number is not padding. -/
theorem symbol_ne_padding {n : Nat} (hn : n < 64) : symbol n ≠ padding := by
  intro hpadding
  have hvalue := value?_symbol hn
  rw [hpadding] at hvalue
  cases hvalue

theorem symbolAt_symbol {n : Nat} (hn : n < 64) (offset : Nat) :
    symbolAt offset (symbol n) = .ok n := by
  rw [symbolAt, value?_symbol hn]

/-! ### Reading the groups -/

/-- Reading the groups that something follows gives the bytes in front and leaves the symbols of the
one to three bytes behind them. -/
theorem groupsOnto_symbols (read : List UInt8) (offset : Nat) {bytes : List UInt8}
    (hbytes : bytes ≠ []) :
    ∃ front last next, bytes = front ++ last ∧ last ≠ [] ∧ last.length ≤ 3 ∧
      groupsOnto read offset ((symbols bytes).map symbol) =
        .ok (front.reverse ++ read, next, (symbols last).map symbol) := by
  match bytes with
  | [a] | [a, b] | [a, b, c] =>
    refine ⟨[], _, offset, rfl, by simp, by simp, ?_⟩
    simp [symbols, sextetsOnto, groupsOnto]
  | a :: b :: c :: d :: rest =>
    obtain ⟨hp, hq, hr, hs⟩ := sextets_lt a b c
    obtain ⟨front, last, next, hsplit, hlast, hlength, hread⟩ :=
      groupsOnto_symbols (c :: b :: a :: read) (offset + 4) (List.cons_ne_nil d rest)
    refine ⟨a :: b :: c :: front, last, next, by simp [hsplit], hlast, hlength, ?_⟩
    obtain ⟨following, others, hothers⟩ :=
      List.exists_cons_of_ne_nil (symbols_ne_nil (List.cons_ne_nil d rest))
    rw [symbols_cons_cons_cons]
    rw [hothers] at hread ⊢
    simp only [List.map_cons, groupsOnto, symbolAt_symbol, hp, hq, hr, hs, bind, Except.bind,
      triple_sextets]
    simpa using hread

/-- The last group of symbols is read as their numbers. -/
theorem lastGroup_symbols (offset : Nat) (values numbers : List Nat) (place : Nat)
    (hnumbers : ∀ n ∈ numbers, n < 64) :
    lastGroup offset values none place (numbers.map symbol) = .ok ⟨values ++ numbers, none⟩ := by
  induction numbers generalizing values place with
  | nil => simp [lastGroup]
  | cons n rest ih =>
    rw [List.forall_mem_cons] at hnumbers
    rw [List.map_cons, lastGroup, if_neg (symbol_ne_padding hnumbers.1),
      symbolAt_symbol hnumbers.1]
    simpa [bind, Except.bind] using ih (values ++ [n]) (place + 1) hnumbers.2

/-- The last group holds the bytes that it is written for. -/
theorem lastBytes?_symbols {bytes : List UInt8} (hbytes : bytes ≠ []) (hlength : bytes.length ≤ 3) :
    lastBytes? (symbols bytes) = some bytes ∧ 2 ≤ (symbols bytes).length := by
  match bytes with
  | [a] =>
    have ha := a.toNat_lt
    simp only [symbols, sextetsOnto, sextets, List.reverse_cons, List.reverse_nil, List.nil_append,
      List.singleton_append, lastBytes?, triple, UInt8.toNat_zero]
    rw [if_pos (by omega)]
    refine ⟨congrArg some (List.cons_eq_cons.mpr ⟨ofNat_eq_of_mod ?_, rfl⟩), Nat.le_refl _⟩
    omega
  | [a, b] =>
    have ha := a.toNat_lt
    have hb := b.toNat_lt
    simp only [symbols, sextetsOnto, sextets, List.reverse_cons, List.reverse_nil, List.nil_append,
      List.cons_append, lastBytes?, triple, UInt8.toNat_zero]
    rw [if_pos (by omega)]
    refine ⟨congrArg some (List.cons_eq_cons.mpr ⟨ofNat_eq_of_mod ?_,
      List.cons_eq_cons.mpr ⟨ofNat_eq_of_mod ?_, rfl⟩⟩), by simp⟩ <;> omega
  | [a, b, c] =>
    have hsymbols : symbols [a, b, c] = [(sextets a b c).1, (sextets a b c).2.1,
        (sextets a b c).2.2.1, (sextets a b c).2.2.2] := symbols_cons_cons_cons a b c []
    rw [hsymbols, lastBytes?, triple_sextets]
    exact ⟨rfl, by simp⟩

/-! ### Texts -/

/-- The bytes of a text of symbols are the symbols. -/
theorem toUTF8_characters {numbers : List Nat} (hnumbers : ∀ n ∈ numbers, n < 64) :
    (String.ofList (numbers.map character)).toUTF8.data.toList = numbers.map symbol := by
  have hcharacter : ∀ n : Fin 64, String.utf8EncodeChar (character n.val) = [symbol n.val] := by
    decide
  have hencode : (numbers.map character).flatMap String.utf8EncodeChar = numbers.map symbol := by
    induction numbers with
    | nil => rfl
    | cons n rest ih =>
      rw [List.forall_mem_cons] at hnumbers
      rw [List.map_cons, List.flatMap_cons, ih hnumbers.2, hcharacter ⟨n, hnumbers.1⟩]
      rfl
  rw [← hencode]
  exact List.toList_data_toByteArray

/-- The bytes that are written as a transport text are read back from it. -/
theorem decode_encode (bytes : List UInt8) : decode (encode bytes) = .ok bytes := by
  rw [decode, encode, toUTF8_characters (symbols_lt bytes)]
  by_cases hbytes : bytes = []
  · subst hbytes
    rfl
  · obtain ⟨front, last, next, hsplit, hlast, hlength, hgroups⟩ := groupsOnto_symbols [] 0 hbytes
    obtain ⟨final, hfinal⟩ : ∃ final, (symbols bytes).getLast? = some final :=
      Option.isSome_iff_exists.mp (List.getLast?_isSome.mpr (symbols_ne_nil hbytes))
    have hvalue := value?_symbol (symbols_lt bytes final (List.mem_of_getLast? hfinal))
    obtain ⟨hbehind, hcount⟩ := lastBytes?_symbols hlast hlength
    have hgroup := lastGroup_symbols next [] (symbols last) 0 (symbols_lt last)
    rw [decodeBytes, List.getLast?_map, hfinal]
    simp only [Option.map_some, hvalue, reduceCtorEq, and_false, if_false]
    rw [hgroups]
    simp only [List.append_nil, List.nil_append] at hgroup ⊢
    change (lastGroup next [] none 0 _).bind _ = _
    rw [hgroup]
    simp only [Except.bind, if_neg (Nat.not_lt.mpr hcount), hbehind, List.reverseAux_eq,
      List.reverse_reverse, hsplit]
    rfl

/-- Different bytes are written as different texts. -/
theorem encode_injective {first second : List UInt8} (hsame : encode first = encode second) :
    first = second := by
  have hdecode := decode_encode first
  rw [hsame, decode_encode] at hdecode
  exact (Except.ok.inj hdecode).symm

/-- Only nothing is written as an empty text. -/
theorem encode_eq_empty_iff {bytes : List UInt8} : encode bytes = "" ↔ bytes = [] :=
  ⟨fun hempty ↦ encode_injective hempty, fun hnil ↦ by rw [hnil]; rfl⟩

/-- A text has no other characters than letters, digits, plus and slash. -/
theorem mem_encode {bytes : List UInt8} {c : Char} (hc : c ∈ (encode bytes).toList) :
    c.isAlphanum ∨ c = '+' ∨ c = '/' := by
  have hcharacter : ∀ n : Fin 64, (character n.val).isAlphanum ∨ character n.val = '+' ∨
      character n.val = '/' := by decide
  rw [encode, String.toList_ofList] at hc
  obtain ⟨n, hn, rfl⟩ := List.mem_map.mp hc
  exact hcharacter ⟨n, symbols_lt bytes n hn⟩

end PageCapture.Base64
