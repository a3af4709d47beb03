import PageCapture.Proofs.Toml.Quotes
import PageCapture.Toml.Document

/-!
# Values that are written

Integers of 64 signed bits, truth values and texts are read back from what is written for them
(`Written.value?_append`). A numeral is neither taken for the beginning of a date or a time
(`dateOrTime?_digits`) nor for a number in another base.
-/

set_option autoImplicit false
set_option relaxedAutoImplicit false

namespace PageCapture.Toml

/-! ### Numbers -/

/-- Digits are read up to a line end. -/
theorem digits?_more_append {digits : List Char} (hdigits : ∀ c ∈ digits, c.isDigit = true)
    (read rest : List Char) :
    digits?.more Char.isDigit read (digits ++ '\n' :: rest) =
      some (read.reverse ++ digits, '\n' :: rest) := by
  induction digits generalizing read with
  | nil =>
    rw [List.nil_append, List.append_nil, digits?.more]
    · rfl
    · exact fun _ _ heq _ ↦ absurd heq (by decide)
  | cons c digits ih =>
    rw [List.forall_mem_cons] at hdigits
    rw [List.cons_append, digits?.more, if_pos hdigits.1, ih hdigits.2, List.reverse_cons,
      List.append_assoc]
    · rfl
    · exact fun _ _ heq _ ↦ ne_of_holds hdigits.1 rfl heq

theorem digits?_digits (n : Nat) (rest : List Char) :
    digits? Char.isDigit (Decimal.digits n ++ '\n' :: rest) =
      some (Decimal.digits n, '\n' :: rest) := by
  obtain ⟨c, cs, hdigits, hc⟩ := Decimal.exists_digits_eq_cons n
  have hcs : ∀ d ∈ cs, d.isDigit = true := fun d hd ↦
    Decimal.isDigit_of_mem (n := n) (hdigits ▸ List.mem_cons_of_mem c hd)
  rw [hdigits, List.cons_append, digits?, if_pos hc, digits?_more_append hcs]
  rfl

/-- The whole part of a number is its numeral, which has no zero in front. -/
theorem wholePart?_digits (n : Nat) (rest : List Char) :
    wholePart? (Decimal.digits n ++ '\n' :: rest) = some (Decimal.digits n, '\n' :: rest) := by
  by_cases hn : n = 0
  · subst hn
    rfl
  · obtain ⟨c, cs, hdigits, hc⟩ := Decimal.exists_digits_eq_cons n
    have hzero : c ≠ '0' := by
      rintro rfl
      exact Decimal.head?_digits_ne hn (congrArg List.head? hdigits)
    rw [← digits?_digits n rest, hdigits, List.cons_append, wholePart?]
    rintro after heq
    exact hzero (List.cons.inj heq).1

theorem decimal?_digits (negative : Bool) (n : Nat) (rest : List Char)
    (hn : isInt64 (if negative then -(n : Int) else n) = true) :
    decimal? negative (Decimal.digits n ++ '\n' :: rest) =
      some (.integer (if negative then -(n : Int) else n), '\n' :: rest) := by
  have hfraction : fractionPart? ('\n' :: rest) = some ([], '\n' :: rest) := rfl
  have hexponent : exponentPart? ('\n' :: rest) = some (0, '\n' :: rest) := rfl
  unfold decimal?
  rw [wholePart?_digits]
  simp only [Option.bind_eq_bind, Option.bind_some, hfraction, hexponent, if_true,
    Decimal.value_digits, integer?, hn]
  rfl

/-- No date or time starts with something else than a digit. -/
theorem dateOrTime?_of_not_isDigit {c : Char} (hc : c.isDigit = false) (rest : List Char) :
    dateOrTime? (c :: rest) = none := by
  unfold dateOrTime?
  split
  · next heq =>
    rw [← (List.cons.inj heq).1, List.all_cons, hc]
    rfl
  · unfold startsTime
    split
    · next heq =>
      rw [← (List.cons.inj heq).1, hc]
      rfl
    · rfl

/-- In front of the line end behind a numeral are only digits. -/
theorem digits_append_ne (front : List Char) {c : Char} (hfront : front.all Char.isDigit = true)
    (hc : c.isDigit = false) (hline : c ≠ '\n') (n : Nat) (rest after : List Char) :
    Decimal.digits n ++ '\n' :: rest ≠ front ++ c :: after := by
  intro heq
  have hspan : (Decimal.digits n ++ '\n' :: rest).span Char.isDigit =
      (Decimal.digits n, '\n' :: rest) := by
    refine Decimal.span_digits n fun d hd ↦ ?_
    cases hd
    rfl
  have hother : (front ++ c :: after).span Char.isDigit = (front, c :: after) := by
    refine span_append (List.all_eq_true.mp hfront) fun d hd ↦ ?_
    cases hd
    exact hc
  rw [heq, hother] at hspan
  exact hline (List.cons.inj (Prod.mk.inj hspan).2).1

/-- No date or time stands where a line ends behind digits. -/
theorem dateOrTime?_digits (n : Nat) (rest : List Char) :
    dateOrTime? (Decimal.digits n ++ '\n' :: rest) = none := by
  -- A date has a hyphen behind four digits and a time a colon behind two; what stands behind the
  -- digits of a numeral is the end of its line.
  unfold dateOrTime?
  split
  · next a b c d after heq =>
    refine if_neg fun hall ↦ ?_
    exact digits_append_ne [a, b, c, d] hall rfl (by decide) n rest after heq
  · unfold startsTime
    split
    · next a b after heq =>
      refine if_neg fun hboth ↦ ?_
      have hfront : [a, b].all Char.isDigit = true := by simpa using hboth
      exact digits_append_ne [a, b] hfront rfl (by decide) n rest after heq
    · rfl

theorem unsigned?_digits (negative : Bool) (n : Nat) (rest : List Char) :
    unsigned? negative (Decimal.digits n ++ '\n' :: rest) =
      decimal? negative (Decimal.digits n ++ '\n' :: rest) := by
  unfold unsigned?
  split
  · next heq => exact absurd heq (digits_append_ne [] rfl (by rfl) (by decide) n rest _)
  · next heq => exact absurd heq (digits_append_ne [] rfl (by rfl) (by decide) n rest _)
  · rfl

/-- The numeral of an integer is read as the integer. -/
theorem scalar?_characters {n : Int} (hn : isInt64 n = true) (rest : List Char) :
    scalar? (Decimal.characters n ++ '\n' :: rest) = some (.integer n, '\n' :: rest) := by
  rcases n with n | n
  · change scalar? (Decimal.digits n ++ '\n' :: rest) = _
    unfold scalar?
    rw [dateOrTime?_digits]
    simp only
    split
    case h_8 =>
      exact (unsigned?_digits false n rest).trans (decimal?_digits false n rest hn)
    all_goals
      next heq =>
        first
        | exact absurd heq (digits_append_ne [] rfl (by rfl) (by decide) n rest _)
        | exact absurd heq (digits_append_ne ['0'] rfl (by rfl) (by decide) n rest _)
  · change scalar? ('-' :: (Decimal.digits (n + 1) ++ '\n' :: rest)) = _
    unfold scalar?
    rw [dateOrTime?_of_not_isDigit rfl]
    exact (unsigned?_digits true (n + 1) rest).trans (decimal?_digits true (n + 1) rest hn)

/-! ### Values -/

/-- What is written for a value: a numeral of 64 signed bits, a truth value, or a string of any
form. -/
inductive Written : Datum → List Char → Prop
  | true : Written (.boolean true) ['t', 'r', 'u', 'e']
  | false : Written (.boolean false) ['f', 'a', 'l', 's', 'e']
  | integer {value : Int} (hvalue : isInt64 value = true) :
    Written (.integer value) (Decimal.characters value)
  | text {text : String} {characters : List Char} (hquotes : Quotes text characters) :
    Written (.text text) characters

/-- A value that starts like a number is read as a scalar. -/
theorem value?_eq_scalar? {c : Char} (hc : Decimal.isNumeralCharacter c = true) (fuel depth : Nat)
    (rest : List Char) : value? (fuel + 1) depth (c :: rest) = scalar? (c :: rest) := by
  rw [value?]
  all_goals exact fun _ heq ↦ ne_of_holds hc rfl (List.cons.inj heq).1

/-- A value that starts with a quote is read as a string. -/
theorem Quotes.value?_eq {text : String} {characters : List Char}
    (hquotes : Quotes text characters) (fuel depth : Nat) (rest : List Char) :
    value? (fuel + 1) depth (characters ++ rest) =
      (string? (characters ++ rest)).map fun read ↦ (.text read.1, read.2) := by
  cases hquotes <;> simp only [List.cons_append] <;> rw [value?]

/-- No blank stands in front of a value. -/
theorem Written.skipBlank_append {datum : Datum} {characters : List Char}
    (hwritten : Written datum characters) (rest : List Char) :
    skipBlank (' ' :: (characters ++ rest)) = characters ++ rest := by
  cases hwritten with
  | true => rfl
  | false => rfl
  | @integer value _ =>
    obtain ⟨c, cs, hcharacters, hc⟩ := Decimal.exists_characters_eq_cons value
    rw [hcharacters, List.cons_append]
    exact skipBlank_cons (ne_of_holds hc rfl) (ne_of_holds hc rfl) (cs ++ rest)
  | text hquotes => cases hquotes <;> rfl

/-- A value is read up to the end of its line. -/
theorem Written.value?_append {datum : Datum} {characters : List Char}
    (hwritten : Written datum characters) (fuel depth : Nat) (rest : List Char) :
    value? (fuel + 1) depth (characters ++ '\n' :: rest) = some (datum, '\n' :: rest) := by
  cases hwritten with
  | true => rfl
  | false => rfl
  | @integer value hvalue =>
    obtain ⟨c, cs, hcharacters, hc⟩ := Decimal.exists_characters_eq_cons value
    have hscalar := scalar?_characters hvalue rest
    rw [hcharacters, List.cons_append] at hscalar ⊢
    rw [value?_eq_scalar? hc, hscalar]
  | text hquotes =>
    have hquote : ∀ quote : Char, quote ≠ '\n' → ('\n' :: rest).head? ≠ some quote :=
      fun quote hne hhead ↦ hne (Option.some.inj hhead).symm
    rw [hquotes.value?_eq, hquotes.string?_append (hquote '"' (by decide))
      (hquote '\'' (by decide))]
    rfl

/-- A value that the program writes: an integer of 64 signed bits, a truth value or a text. -/
inductive Scalar : Datum → Prop
  | boolean (value : Bool) : Scalar (.boolean value)
  | integer {value : Int} (hvalue : isInt64 value = true) : Scalar (.integer value)
  | text (value : String) : Scalar (.text value)

/-- The program writes a value in one of its forms. -/
theorem Scalar.exists_written {datum : Datum} (hdatum : Scalar datum) :
    ∃ characters, valueCharacters? datum = some characters ∧ Written datum characters := by
  cases hdatum with
  | boolean value => cases value <;> exact ⟨_, rfl, by constructor⟩
  | integer hvalue => exact ⟨_, rfl, .integer hvalue⟩
  | text value => exact ⟨_, rfl, .text (quotes_escape value)⟩

end PageCapture.Toml
