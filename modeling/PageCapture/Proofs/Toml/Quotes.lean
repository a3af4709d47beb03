import Mathlib.Data.List.Forall2
import Mathlib.Tactic.SplitIfs
import PageCapture.Proofs.Text.Digits
import PageCapture.Toml.Document

/-!
# Keys and strings that are written

A bare name is read back as the only part of its key (`key?_bare`). A text may be written as a
string in four forms (`Quotes`): between double quotes, where escapes stand for characters, or
between single quotes, where every character stands for itself; and between one or three of them,
which may go over several lines. The reader gives back the text of each (`Quotes.string?_append`).
The form that the program writes has an escape for every character that needs one, so that there is
no text it does not exist for (`quotes_escape`).
-/

set_option autoImplicit false
set_option relaxedAutoImplicit false

namespace PageCapture.Toml

/-! ### Blanks and line ends -/

theorem skipBlank_cons {c : Char} (hspace : c ≠ ' ') (htab : c ≠ '\t') (rest : List Char) :
    skipBlank (c :: rest) = c :: rest := by
  simp [skipBlank, isBlankCharacter, hspace, htab]

theorem lineEnd?_newline (rest : List Char) : lineEnd? ('\n' :: rest) = some rest := rfl

/-! ### Keys -/

/-- A name that may be written without quotes. -/
structure Bare (name : String) : Prop where
  ne_nil : name.toList ≠ []
  isKeyCharacter : ∀ c ∈ name.toList, isKeyCharacter c = true

instance (name : String) : Decidable (Bare name) :=
  decidable_of_iff (name.toList ≠ [] ∧ name.toList.all isKeyCharacter = true)
    ⟨fun h ↦ ⟨h.1, List.all_eq_true.mp h.2⟩, fun h ↦ ⟨h.1, List.all_eq_true.mpr h.2⟩⟩

theorem Bare.exists_eq_cons {name : String} (hname : Bare name) :
    ∃ c cs, name.toList = c :: cs ∧ Toml.isKeyCharacter c = true := by
  obtain ⟨c, cs, hcons⟩ := List.exists_cons_of_ne_nil hname.ne_nil
  exact ⟨c, cs, hcons, hname.isKeyCharacter c (hcons ▸ List.mem_cons_self)⟩

/-- A bare name is one part of a key, up to the first character that is none of a name. -/
theorem keyPart?_bare {name : String} (hname : Bare name) {rest : List Char}
    (hrest : ∀ c ∈ rest.head?, isKeyCharacter c = false) :
    keyPart? (name.toList ++ rest) = some (name, rest) := by
  have hspan := span_append hname.isKeyCharacter hrest
  obtain ⟨c, cs, hcons, hc⟩ := hname.exists_eq_cons
  rw [hcons, List.cons_append] at hspan ⊢
  rw [keyPart?, hspan]
  · change some (String.ofList (c :: cs), rest) = some (name, rest)
    rw [← hcons, String.ofList_toList]
  · rintro after heq
    exact ne_of_holds hc rfl (List.cons.inj heq).1
  · rintro after heq
    exact ne_of_holds hc rfl (List.cons.inj heq).1

/-- A bare name is a key, unless a dot follows it. -/
theorem key?_bare {name : String} (hname : Bare name) {rest : List Char}
    (hrest : ∀ c ∈ rest.head?, isKeyCharacter c = false)
    (hdot : (skipBlank rest).head? ≠ some '.') :
    key? (name.toList ++ rest) = some ([name], skipBlank rest) := by
  obtain ⟨c, cs, hcons, hc⟩ := hname.exists_eq_cons
  have hstart : skipBlank (name.toList ++ rest) = name.toList ++ rest := by
    rw [hcons, List.cons_append, skipBlank_cons (ne_of_holds hc rfl) (ne_of_holds hc rfl)]
  change keyParts? (78 + 1) (name.toList ++ rest) = _
  rw [keyParts?, hstart, keyPart?_bare hname hrest]
  simp only
  split
  · next heq => exact absurd (congrArg List.head? heq) hdot
  · rfl

/-! ### Characters between double quotes -/

/-- What may stand for a character between double quotes: the character, if it is plain and neither
a quote nor a backslash, or an escape that names it. -/
inductive Stands (c : Char) : List Char → Prop
  | plain (hplain : isPlain c = true) (hquote : c ≠ '"') (hslash : c ≠ '\\') : Stands c [c]
  | escaped {code : List Char}
      (hcode : ∀ rest, escape? (code ++ rest) = some (c, code.length)) : Stands c ('\\' :: code)

/-- What stands for a character is read as that character. -/
theorem Stands.basicOnto_append {c : Char} {written : List Char} (hstands : Stands c written)
    (read rest : List Char) : basicOnto read (written ++ rest) = basicOnto (c :: read) rest := by
  cases hstands with
  | plain hplain hquote hslash =>
    rw [List.singleton_append, basicOnto, if_neg hquote, if_neg hslash, if_pos hplain]
  | escaped hcode =>
    rw [List.cons_append, basicOnto, if_neg (by decide), if_pos rfl, hcode]
    simp only [List.drop_left]

theorem escape?_code {c : Char} (hc : c.toNat < 256) (rest : List Char) :
    escape? ('u' :: '0' :: '0' :: Hexadecimal.digit (c.toNat / 16) ::
      Hexadecimal.digit c.toNat :: rest) = some (c, 5) := by
  have hvalid : c.toNat.isValidChar := c.valid
  simp [escape?, escape?.coded, Hexadecimal.value?_code hc, hvalid]

/-- What is written for a character stands for it. -/
theorem stands_escape (c : Char) : Stands c (escape c) := by
  unfold escape
  split_ifs with hquote hslash hline hreturn htab hback hfeed hcontrol
  · exact .escaped fun rest ↦ by rw [hquote]; rfl
  · exact .escaped fun rest ↦ by rw [hslash]; rfl
  · exact .escaped fun rest ↦ by rw [hline]; rfl
  · exact .escaped fun rest ↦ by rw [hreturn]; rfl
  · exact .escaped fun rest ↦ by rw [htab]; rfl
  · exact .escaped fun rest ↦ by rw [hback]; rfl
  · exact .escaped fun rest ↦ by rw [hfeed]; rfl
  · exact .escaped fun rest ↦ escape?_code (by omega) rest
  · refine .plain ?_ hquote hslash
    simp only [isPlain, Bool.or_eq_true, Bool.and_eq_true, decide_eq_true_eq]
    omega

/-- What stands for a character does not start with a quote. -/
theorem Stands.exists_eq_cons {c : Char} {written : List Char} (hstands : Stands c written) :
    ∃ d ds, written = d :: ds ∧ d ≠ '"' := by
  cases hstands with
  | plain _ hquote _ => exact ⟨c, [], rfl, hquote⟩
  | escaped _ => exact ⟨'\\', _, rfl, by decide⟩

/-! ### Strings -/

/-- The forms in which a text may be a string: between double or single quotes, one or three. Three
quotes have the first line break behind them to themselves, and the text has its own as they are. -/
inductive Quotes (text : String) : List Char → Prop
  | basic {written : List (List Char)} (hwritten : List.Forall₂ Stands text.toList written) :
    Quotes text ('"' :: (written.flatten ++ ['"']))
  | basicLines {written : List (List Char)}
      (hwritten : List.Forall₂ (fun c part ↦ Stands c part ∨ c = '\n' ∧ part = ['\n'])
        text.toList written) :
    Quotes text ('"' :: '"' :: '"' :: '\n' :: (written.flatten ++ ['"', '"', '"']))
  | literal (hplain : ∀ c ∈ text.toList, isPlain c = true ∧ c ≠ '\'') :
    Quotes text ('\'' :: (text.toList ++ ['\'']))
  | literalLines (hplain : ∀ c ∈ text.toList, isPlain c = true ∨ c = '\n')
      (hquotes : ∀ c behind, c :: behind <:+ text.toList →
        ¬ ['\'', '\'', '\''] <+: c :: behind ++ ['\'', '\'', '\'']) :
    Quotes text ('\'' :: '\'' :: '\'' :: '\n' :: (text.toList ++ ['\'', '\'', '\'']))

/-- Characters between double quotes are read up to the closing one. -/
theorem basicOnto_flatten {text : List Char} {written : List (List Char)}
    (hwritten : List.Forall₂ Stands text written) (read rest : List Char) :
    basicOnto read (written.flatten ++ '"' :: rest) =
      some (String.ofList (read.reverse ++ text), rest) := by
  induction hwritten generalizing read with
  | nil => rw [List.flatten_nil, List.nil_append, basicOnto, if_pos rfl, List.append_nil]
  | cons hstands _ ih =>
    rw [List.flatten_cons, List.append_assoc, hstands.basicOnto_append, ih, List.reverse_cons,
      List.append_assoc]
    rfl

/-- A string between double quotes does not start like one between three. -/
theorem flatten_append_ne {text : List Char} {written : List (List Char)}
    (hwritten : List.Forall₂ Stands text written) {rest : List Char}
    (hrest : rest.head? ≠ some '"') (after : List Char) :
    written.flatten ++ '"' :: rest ≠ '"' :: '"' :: after := by
  intro heq
  cases hwritten with
  | nil => exact hrest (congrArg List.head? (List.cons.inj heq).2)
  | cons hstands _ =>
    obtain ⟨d, ds, rfl, hd⟩ := hstands.exists_eq_cons
    exact hd (List.cons.inj heq).1

/-- Characters between single quotes are read up to the closing one. -/
theorem literalOnto_append {text : List Char}
    (hplain : ∀ c ∈ text, isPlain c = true ∧ c ≠ '\'') (read rest : List Char) :
    literalOnto read (text ++ '\'' :: rest) =
      some (String.ofList (read.reverse ++ text), rest) := by
  induction text generalizing read with
  | nil => rw [List.nil_append, literalOnto, if_pos rfl, List.append_nil]
  | cons c text ih =>
    rw [List.forall_mem_cons] at hplain
    rw [List.cons_append, literalOnto, if_neg hplain.1.2, if_pos hplain.1.1, ih hplain.2,
      List.reverse_cons, List.append_assoc]
    rfl

/-- Three quotes that no further quote follows are no part of a text. -/
theorem closing_of_head?_ne {quote : Char} {rest : List Char} (hrest : rest.head? ≠ some quote)
    (read : List Char) : closing quote read rest = (String.ofList read.reverse, rest) := by
  have hne : ∀ c, rest.head? = some c → c ≠ quote := by
    rintro c hc rfl
    exact hrest hc
  rcases rest with _ | ⟨a, _ | ⟨b, rest⟩⟩
  · rfl
  · rw [closing, if_neg (hne a rfl)]
  · rw [closing, if_neg (hne a rfl)]

/-- No line ends behind the backslash of an escape. -/
theorem startsLine_of_escape? {c : Char} {code : List Char}
    (hcode : ∀ rest, escape? (code ++ rest) = some (c, code.length)) (rest : List Char) :
    startsLine (code ++ rest) = false := by
  rcases code with _ | ⟨letter, code⟩
  · cases hcode []
  have hletter : ∀ other, (∀ rest, escape? (other :: rest) = none) → letter ≠ other := by
    rintro other hnone rfl
    have hread := hcode []
    rw [List.cons_append, hnone] at hread
    cases hread
  rw [List.cons_append, startsLine,
    skipBlank_cons (hletter ' ' fun _ ↦ rfl) (hletter '\t' fun _ ↦ rfl), newline?]
  · rfl
  · exact fun _ heq ↦ hletter '\n' (fun _ ↦ rfl) (List.cons.inj heq).1
  · exact fun _ heq ↦ hletter '\r' (fun _ ↦ rfl) (List.cons.inj heq).1

/-- Between three double quotes what stands for a character is read as the character. -/
theorem Stands.basicLinesOnto_append {c : Char} {written : List Char} (hstands : Stands c written)
    (read rest : List Char) :
    basicLinesOnto false read (written ++ rest) = basicLinesOnto false (c :: read) rest := by
  cases hstands with
  | plain hplain hquote hslash =>
    have hline : c ≠ '\n' := ne_of_holds hplain rfl
    rw [List.singleton_append, basicLinesOnto, if_neg hline, if_neg hslash, if_pos hplain]
    · rfl
    · exact fun _ hc _ ↦ hquote hc
    · exact fun _ hc _ ↦ ne_of_holds hplain rfl hc
  | escaped hcode =>
    rw [List.cons_append, basicLinesOnto, if_neg (by decide), if_neg (by decide), if_pos rfl,
      startsLine_of_escape? hcode, hcode]
    · simp only [List.drop_left]
      rfl
    · exact fun _ hslash _ ↦ absurd hslash (by decide)
    · exact fun _ hslash _ ↦ absurd hslash (by decide)

/-- Characters between three double quotes are read up to the closing ones. -/
theorem basicLinesOnto_flatten {text : List Char} {written : List (List Char)}
    (hwritten : List.Forall₂ (fun c part ↦ Stands c part ∨ c = '\n' ∧ part = ['\n']) text written)
    (read : List Char) {rest : List Char} (hrest : rest.head? ≠ some '"') :
    basicLinesOnto false read (written.flatten ++ '"' :: '"' :: '"' :: rest) =
      some (String.ofList (read.reverse ++ text), rest) := by
  induction hwritten generalizing read with
  | nil =>
    rw [List.flatten_nil, List.nil_append, basicLinesOnto, closing_of_head?_ne hrest,
      List.append_nil]
  | cons hstands _ ih =>
    rw [List.flatten_cons, List.append_assoc]
    rcases hstands with hstands | ⟨rfl, rfl⟩
    · rw [hstands.basicLinesOnto_append, ih, List.reverse_cons, List.append_assoc]
      rfl
    · rw [List.singleton_append, basicLinesOnto, if_pos rfl]
      · simp only [Bool.false_eq_true, if_false]
        rw [ih, List.reverse_cons, List.append_assoc]
        rfl
      · exact fun _ hline _ ↦ absurd hline (by decide)
      · exact fun _ hline _ ↦ absurd hline (by decide)

/-- Characters between three single quotes are read up to the closing ones. -/
theorem literalLinesOnto_append {text : List Char}
    (hplain : ∀ c ∈ text, isPlain c = true ∨ c = '\n')
    (hquotes : ∀ c behind, c :: behind <:+ text →
      ¬ ['\'', '\'', '\''] <+: c :: behind ++ ['\'', '\'', '\''])
    (read : List Char) {rest : List Char} (hrest : rest.head? ≠ some '\'') :
    literalLinesOnto read (text ++ '\'' :: '\'' :: '\'' :: rest) =
      some (String.ofList (read.reverse ++ text), rest) := by
  induction text generalizing read with
  | nil =>
    rw [List.nil_append, literalLinesOnto, closing_of_head?_ne hrest, List.append_nil]
  | cons c text ih =>
    rw [List.forall_mem_cons] at hplain
    -- Three quotes here would stand in the text and its closing quotes, whatever follows these.
    have hopen : ∀ after, c :: (text ++ '\'' :: '\'' :: '\'' :: rest) ≠
        '\'' :: '\'' :: '\'' :: after := by
      intro after heq
      have hall : ['\'', '\'', '\''] <+: c :: (text ++ '\'' :: '\'' :: '\'' :: rest) :=
        ⟨after, heq.symm⟩
      have hown : c :: text ++ ['\'', '\'', '\''] <+:
          c :: (text ++ '\'' :: '\'' :: '\'' :: rest) := ⟨rest, by simp⟩
      exact hquotes c text List.suffix_rfl (List.prefix_of_prefix_length_le hall hown (by simp))
    have hreturn : c ≠ '\r' := by
      rintro rfl
      rcases hplain.1 with h | h <;> cases h
    have hc : (c = '\n' || isPlain c) = true := by
      rw [Bool.or_eq_true, decide_eq_true_eq]
      exact hplain.1.symm
    have hbehind := ih hplain.2
      (fun d behind hsuffix ↦ hquotes d behind (hsuffix.trans (List.suffix_cons c text)))
      (c :: read)
    rw [List.cons_append, literalLinesOnto, if_pos hc, hbehind, List.reverse_cons,
      List.append_assoc]
    · rfl
    · rintro after rfl heq
      exact hopen after (congrArg ('\'' :: ·) heq)
    · exact fun _ h _ ↦ hreturn h

/-- What is written for a text is one of its forms. -/
theorem quotes_escape (text : String) :
    Quotes text ('"' :: (text.toList.flatMap escape ++ ['"'])) := by
  have hwritten : List.Forall₂ Stands text.toList (text.toList.map escape) := by
    induction text.toList with
    | nil => exact .nil
    | cons c text ih => exact .cons (stands_escape c) ih
  rw [List.flatMap_def]
  exact .basic hwritten

/-! ### Reading strings -/

theorem string?_basic {rest : List Char} (hrest : ∀ after, rest ≠ '"' :: '"' :: after) :
    string? ('"' :: rest) = basicOnto [] rest := by
  rw [string?]
  exact hrest

theorem string?_literal {rest : List Char} (hrest : ∀ after, rest ≠ '\'' :: '\'' :: after) :
    string? ('\'' :: rest) = literalOnto [] rest := by
  rw [string?]
  exact hrest

/-- A string of any form is read as its text, if no further quote follows it. -/
theorem Quotes.string?_append {text : String} {characters : List Char}
    (hquotes : Quotes text characters) {rest : List Char} (hdouble : rest.head? ≠ some '"')
    (hsingle : rest.head? ≠ some '\'') :
    string? (characters ++ rest) = some (text, rest) := by
  cases hquotes with
  | @basic written hwritten =>
    rw [List.cons_append, List.append_assoc, List.singleton_append, string?_basic,
      basicOnto_flatten hwritten, List.reverse_nil, List.nil_append, String.ofList_toList]
    exact flatten_append_ne hwritten hdouble
  | @basicLines written hwritten =>
    have hread := basicLinesOnto_flatten hwritten [] hdouble
    rw [List.reverse_nil, List.nil_append, String.ofList_toList] at hread
    rw [← hread]
    simp only [List.cons_append, List.append_assoc]
    rfl
  | literal hplain =>
    rw [List.cons_append, List.append_assoc, List.singleton_append, string?_literal,
      literalOnto_append hplain, List.reverse_nil, List.nil_append, String.ofList_toList]
    intro after heq
    rcases htext : text.toList with _ | ⟨c, behind⟩
    · rw [htext] at heq
      exact hsingle (congrArg List.head? (List.cons.inj heq).2)
    · rw [htext] at heq hplain
      exact (hplain c List.mem_cons_self).2 (List.cons.inj heq).1
  | literalLines hplain hquotes =>
    have hread := literalLinesOnto_append hplain hquotes [] hsingle
    rw [List.reverse_nil, List.nil_append, String.ofList_toList] at hread
    rw [← hread]
    simp only [List.cons_append, List.append_assoc]
    rfl

end PageCapture.Toml
