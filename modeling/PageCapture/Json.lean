import PageCapture.Datum
import PageCapture.Text

/-!
# JSON

`Json.write` gives the compact JSON text of a datum: no blanks, members in their order, and of the
characters in a string only the quote, the backslash and those below U+0020 escaped. It is a single
line whatever the datum holds, as every line break inside a string is escaped.

`Json.read?` gives the datum that a JSON text holds, if it is one: one value, blanks around it and
nothing else. The grammar is the strict one, without comments or trailing commas. Two kinds of value
have no datum of their own and keep the characters they were written with (`Datum.other`): numbers
with a fraction or an exponent, and negative zero; and strings in which an escape names half of a
surrogate pair, which no text holds. A record with such a string as a name is kept as it was written
too.
-/

set_option autoImplicit false
set_option relaxedAutoImplicit false

namespace PageCapture.Json

/-! ### Writing JSON -/

/-- How a character stands inside a string literal. -/
def escape (c : Char) : List Char :=
  if c = '"' then ['\\', '"']
  else if c = '\\' then ['\\', '\\']
  else if c = '\n' then ['\\', 'n']
  else if c = '\r' then ['\\', 'r']
  else if c = '\t' then ['\\', 't']
  else if c = '\x08' then ['\\', 'b']
  else if c = '\x0c' then ['\\', 'f']
  else if c.toNat < 0x20 then
    ['\\', 'u', '0', '0', Hexadecimal.digit (c.toNat / 16), Hexadecimal.digit c.toNat]
  else [c]

/-- The string literal of a text. -/
def literal (text : String) : List Char := '"' :: (text.toList.flatMap escape ++ ['"'])

mutual

/-- The characters of a datum's JSON text. -/
def characters : Datum → List Char
  | .null => ['n', 'u', 'l', 'l']
  | .boolean true => ['t', 'r', 'u', 'e']
  | .boolean false => ['f', 'a', 'l', 's', 'e']
  | .integer value => Decimal.characters value
  | .text value => literal value
  | .sequence [] => ['[', ']']
  | .sequence (item :: items) => '[' :: (characters item ++ itemsAfter items)
  | .record [] => ['{', '}']
  | .record ((name, member) :: members) =>
    '{' :: (literal name ++ ':' :: (characters member ++ membersAfter members))
  | .other written => written.toList

/-- The items of a sequence after the first, and its closing bracket. -/
def itemsAfter : List Datum → List Char
  | [] => [']']
  | item :: items => ',' :: (characters item ++ itemsAfter items)

/-- The members of a record after the first, and its closing brace. -/
def membersAfter : List (String × Datum) → List Char
  | [] => ['}']
  | (name, member) :: members =>
    ',' :: (literal name ++ ':' :: (characters member ++ membersAfter members))

end

/-- The compact JSON text of a datum. -/
def write (d : Datum) : String := String.ofList (characters d)

/-! ### Reading JSON -/

/-- What is left after the blanks in front. -/
def skipBlank : List Char → List Char
  | c :: rest =>
    if c = ' ' ∨ c = '\n' ∨ c = '\t' ∨ c = '\r' then skipBlank rest else c :: rest
  | [] => []

/-- The character that a one-letter escape stands for. -/
def shortEscape? (c : Char) : Option Char :=
  if c = '"' then some '"'
  else if c = '\\' then some '\\'
  else if c = '/' then some '/'
  else if c = 'n' then some '\n'
  else if c = 'r' then some '\r'
  else if c = 't' then some '\t'
  else if c = 'b' then some '\x08'
  else if c = 'f' then some '\x0c'
  else none

/-- Whether a UTF-16 code unit is the first half of a surrogate pair. -/
def isHighSurrogate (unit : Nat) : Bool := 0xD800 ≤ unit ∧ unit < 0xDC00

/-- Whether a UTF-16 code unit is the second half of a surrogate pair. -/
def isLowSurrogate (unit : Nat) : Bool := 0xDC00 ≤ unit ∧ unit < 0xE000

/-- The character of a surrogate pair. -/
def ofSurrogates (high low : Nat) : Char :=
  Char.ofNat (0x10000 + (high - 0xD800) * 0x400 + (low - 0xDC00))

/-- Reads a string literal from behind its opening quote to behind its closing one. `read` holds
the characters so far, the last first, and `sound` tells whether every escape so far names a
character; the text is given only if all of them do. -/
def literalOnto (read : List Char) (sound : Bool) :
    List Char → Option (Option String × List Char)
  | [] => none
  | '"' :: rest => some (if sound then some (String.ofList read.reverse) else none, rest)
  | '\\' :: 'u' :: a :: b :: c :: d :: rest =>
    match Hexadecimal.value? [a, b, c, d] with
    | none => none
    | some unit =>
      if isHighSurrogate unit then
        match rest with
        | '\\' :: 'u' :: e :: f :: g :: h :: after =>
          match Hexadecimal.value? [e, f, g, h] with
          | none => none
          | some next =>
            if isLowSurrogate next then literalOnto (ofSurrogates unit next :: read) sound after
            else literalOnto read false ('\\' :: 'u' :: e :: f :: g :: h :: after)
        | rest => literalOnto read false rest
      else if isLowSurrogate unit then literalOnto read false rest
      else literalOnto (Char.ofNat unit :: read) sound rest
  | '\\' :: c :: rest =>
    match shortEscape? c with
    | none => none
    | some e => literalOnto (e :: read) sound rest
  | c :: rest => if c.toNat < 0x20 ∨ c = '\\' then none else literalOnto (c :: read) sound rest
termination_by input => input.length

/-- Splits the decimal digits in front from what follows them. -/
def splitDigits (input : List Char) : List Char × List Char := input.span Char.isDigit

/-- What is left after a fraction part, which may be missing; nothing if it has no digits. -/
def skipFraction : List Char → Option (List Char)
  | '.' :: rest =>
    match splitDigits rest with
    | ([], _) => none
    | (_, after) => some after
  | rest => some rest

/-- What is left after an exponent part, which may be missing; nothing if it has no digits. -/
def skipExponent : List Char → Option (List Char)
  | c :: rest =>
    if c = 'e' ∨ c = 'E' then
      let unsigned := match rest with
        | s :: after => if s = '+' ∨ s = '-' then after else s :: after
        | [] => []
      match splitDigits unsigned with
      | ([], _) => none
      | (_, after) => some after
    else some (c :: rest)
  | [] => some []

/-- The characters in front of `rest` in a text that ends with it. -/
def consumed (input rest : List Char) : String :=
  String.ofList (input.take (input.length - rest.length))

/-- Reads a number without its sign, written in `input` from the sign on. -/
def magnitude (input : List Char) (negative : Bool) (unsigned : List Char) :
    Option (Datum × List Char) :=
  match splitDigits unsigned with
  | ([], _) => none
  | (digits, rest) =>
    if digits.head? = some '0' ∧ 1 < digits.length then none
    else
      match (skipFraction rest).bind skipExponent with
      | none => none
      | some after =>
        let n := Decimal.value digits
        if after.length = rest.length ∧ ¬ (negative ∧ n = 0) then
          some (.integer (if negative then -(n : Int) else n), after)
        else some (.other (consumed input after), after)

/-- Reads a number. -/
def number (input : List Char) : Option (Datum × List Char) :=
  match input with
  | '-' :: unsigned => magnitude input true unsigned
  | unsigned => magnitude input false unsigned

/-- Whether every name is given. -/
def namesRead : List (Option String × Datum) → Option (List (String × Datum))
  | [] => some []
  | (some name, member) :: members => (namesRead members).map ((name, member) :: ·)
  | (none, _) :: _ => none

mutual

/-- Reads a value; `fuel` bounds the number of values, items and members. -/
def value (fuel : Nat) (input : List Char) : Option (Datum × List Char) :=
  match fuel with
  | 0 => none
  | fuel + 1 =>
    match skipBlank input with
    | 'n' :: 'u' :: 'l' :: 'l' :: rest => some (.null, rest)
    | 't' :: 'r' :: 'u' :: 'e' :: rest => some (.boolean true, rest)
    | 'f' :: 'a' :: 'l' :: 's' :: 'e' :: rest => some (.boolean false, rest)
    | '"' :: rest =>
      match literalOnto [] true rest with
      | some (some text, after) => some (.text text, after)
      | some (none, after) => some (.other (consumed ('"' :: rest) after), after)
      | none => none
    | '[' :: rest =>
      match skipBlank rest with
      | ']' :: after => some (.sequence [], after)
      | first =>
        match items fuel first with
        | some (read, after) => some (.sequence read, after)
        | none => none
    | '{' :: rest =>
      match skipBlank rest with
      | '}' :: after => some (.record [], after)
      | first =>
        match members fuel first with
        | some (read, after) =>
          match namesRead read with
          | some named => some (.record named, after)
          | none => some (.other (consumed ('{' :: rest) after), after)
        | none => none
    | start => number start

/-- Reads the items of a sequence and its closing bracket. -/
def items (fuel : Nat) (input : List Char) : Option (List Datum × List Char) :=
  match fuel with
  | 0 => none
  | fuel + 1 =>
    match value fuel input with
    | none => none
    | some (item, rest) =>
      match skipBlank rest with
      | ']' :: after => some ([item], after)
      | ',' :: after =>
        match items fuel after with
        | some (read, last) => some (item :: read, last)
        | none => none
      | _ => none

/-- Reads the members of a record and its closing brace. -/
def members (fuel : Nat) (input : List Char) :
    Option (List (Option String × Datum) × List Char) :=
  match fuel with
  | 0 => none
  | fuel + 1 =>
    match skipBlank input with
    | '"' :: rest =>
      match literalOnto [] true rest with
      | none => none
      | some (name, named) =>
        match skipBlank named with
        | ':' :: start =>
          match value fuel start with
          | none => none
          | some (member, valued) =>
            match skipBlank valued with
            | '}' :: after => some ([(name, member)], after)
            | ',' :: after =>
              match members fuel after with
              | some (read, last) => some ((name, member) :: read, last)
              | none => none
            | _ => none
        | _ => none
    | _ => none

end

/-- The datum that a JSON text holds: one value, blanks around it and nothing else. -/
def read? (text : String) : Option Datum :=
  let input := text.toList
  match value (input.length + 1) input with
  | some (datum, rest) => if skipBlank rest = [] then some datum else none
  | none => none

end PageCapture.Json
