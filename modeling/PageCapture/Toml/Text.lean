import PageCapture.Text

/-!
# Blanks, comments, strings and keys of TOML

The pieces of a TOML text that are read character by character. Only a space and a tab are blanks,
a line ends with a line feed that may stand behind a carriage return, and no other control character
may occur at all. There are four kinds of strings: in double quotes with escapes or in single quotes
without, on one line or, between three quotes, on several.
-/

set_option autoImplicit false
set_option relaxedAutoImplicit false

namespace PageCapture.Toml

/-- A space or a tab. -/
def isBlankCharacter (c : Char) : Bool := c = ' ' || c = '\t'

/-- A character that may stand in a comment or a string as it is: all but the control characters,
the tab excepted. -/
def isPlain (c : Char) : Bool := c = '\t' || (0x20 ≤ c.toNat && c.toNat ≠ 0x7F)

/-- What is left after the blanks in front. -/
def skipBlank (input : List Char) : List Char := input.dropWhile isBlankCharacter

/-- What is left after the line end in front. -/
def newline? : List Char → Option (List Char)
  | '\n' :: rest => some rest
  | '\r' :: '\n' :: rest => some rest
  | _ => none

/-- What is left after the end of a line: blanks, a comment, and the line end or the end of the
text. -/
def lineEnd? (input : List Char) : Option (List Char) :=
  let rest := match skipBlank input with
    | '#' :: comment => comment.dropWhile isPlain
    | rest => rest
  match rest with
  | [] => some []
  | rest => newline? rest

/-- What is left after the blanks, line ends and comments in front. -/
def skipLines (inComment : Bool) : List Char → List Char
  | '\r' :: '\n' :: rest => skipLines false rest
  | '\n' :: rest => skipLines false rest
  | c :: rest =>
    if inComment then if isPlain c then skipLines true rest else c :: rest
    else if isBlankCharacter c then skipLines false rest
    else if c = '#' then skipLines true rest
    else c :: rest
  | [] => []

/-- The character of an escape, and the number of characters behind the backslash that it takes. -/
def escape? : List Char → Option (Char × Nat)
  | 'b' :: _ => some ('\x08', 1)
  | 't' :: _ => some ('\t', 1)
  | 'n' :: _ => some ('\n', 1)
  | 'f' :: _ => some ('\x0c', 1)
  | 'r' :: _ => some ('\r', 1)
  | '"' :: _ => some ('"', 1)
  | '\\' :: _ => some ('\\', 1)
  | 'u' :: digits => coded 4 digits
  | 'U' :: digits => coded 8 digits
  | _ => none
where
  /-- A character by the digits of its number. -/
  coded (count : Nat) (digits : List Char) : Option (Char × Nat) :=
    let number := digits.take count
    if number.length < count then none
    else
      match Hexadecimal.value? number with
      | none => none
      | some n => if n.isValidChar then some (Char.ofNat n, count + 1) else none

/-- Reads a string in double quotes from behind the opening quote. -/
def basicOnto (read : List Char) : List Char → Option (String × List Char)
  | [] => none
  | c :: rest =>
    if c = '"' then some (String.ofList read.reverse, rest)
    else if c = '\\' then
      match escape? rest with
      | none => none
      | some (escaped, count) => basicOnto (escaped :: read) (rest.drop count)
    else if isPlain c then basicOnto (c :: read) rest
    else none
termination_by input => input.length
decreasing_by
  all_goals simp only [List.length_drop, List.length_cons]
  all_goals omega

/-- Reads a string in single quotes from behind the opening quote. -/
def literalOnto (read : List Char) : List Char → Option (String × List Char)
  | [] => none
  | c :: rest =>
    if c = '\'' then some (String.ofList read.reverse, rest)
    else if isPlain c then literalOnto (c :: read) rest
    else none

/-- The end of a string on several lines, behind three quotes: up to two more quotes belong to the
string. -/
def closing (quote : Char) (read : List Char) : List Char → String × List Char
  | a :: b :: rest =>
    if a = quote then
      if b = quote then (String.ofList (quote :: quote :: read).reverse, rest)
      else (String.ofList (quote :: read).reverse, b :: rest)
    else (String.ofList read.reverse, a :: b :: rest)
  | [a] =>
    if a = quote then (String.ofList (quote :: read).reverse, [])
    else (String.ofList read.reverse, [a])
  | [] => (String.ofList read.reverse, [])

/-- Whether only blanks stand in front of the next line end. -/
def startsLine (input : List Char) : Bool := (newline? (skipBlank input)).isSome

/-- Reads a string in three double quotes from behind the opening. `skipping` tells whether blanks
and line ends are passed over, as they are behind a backslash at the end of a line. -/
def basicLinesOnto (skipping : Bool) (read : List Char) :
    List Char → Option (String × List Char)
  | [] => none
  | '"' :: '"' :: '"' :: rest => some (closing '"' read rest)
  | '\r' :: '\n' :: rest =>
    basicLinesOnto skipping (if skipping then read else '\n' :: read) rest
  | c :: rest =>
    if c = '\n' then basicLinesOnto skipping (if skipping then read else '\n' :: read) rest
    else if skipping && isBlankCharacter c then basicLinesOnto true read rest
    else if c = '\\' then
      if startsLine rest then basicLinesOnto true read rest
      else
        match escape? rest with
        | none => none
        | some (escaped, count) => basicLinesOnto false (escaped :: read) (rest.drop count)
    else if isPlain c then basicLinesOnto false (c :: read) rest
    else none
termination_by input => input.length
decreasing_by
  all_goals simp only [List.length_drop, List.length_cons]
  all_goals omega

/-- Reads a string in three single quotes from behind the opening. -/
def literalLinesOnto (read : List Char) : List Char → Option (String × List Char)
  | [] => none
  | '\'' :: '\'' :: '\'' :: rest => some (closing '\'' read rest)
  | '\r' :: '\n' :: rest => literalLinesOnto ('\n' :: read) rest
  | c :: rest =>
    if c = '\n' || isPlain c then literalLinesOnto (c :: read) rest else none

/-- A line end directly behind the opening of a string on several lines is no part of it. -/
def skipNewline (input : List Char) : List Char := (newline? input).getD input

/-- Reads a string of any kind from its opening quote on. -/
def string? : List Char → Option (String × List Char)
  | '"' :: '"' :: '"' :: rest => basicLinesOnto false [] (skipNewline rest)
  | '\'' :: '\'' :: '\'' :: rest => literalLinesOnto [] (skipNewline rest)
  | '"' :: rest => basicOnto [] rest
  | '\'' :: rest => literalOnto [] rest
  | _ => none

/-- A character of a key without quotes. -/
def isKeyCharacter (c : Char) : Bool := c.isAlphanum || c = '-' || c = '_'

/-- Reads one part of a key: in quotes on one line, or bare. -/
def keyPart? : List Char → Option (String × List Char)
  | '"' :: rest => basicOnto [] rest
  | '\'' :: rest => literalOnto [] rest
  | input =>
    match input.span isKeyCharacter with
    | ([], _) => none
    | (name, rest) => some (String.ofList name, rest)

/-- The number of parts, and of values inside each other, from which on a text is refused. -/
def depthLimit : Nat := 80

/-- Reads the parts of a key with the blanks around them; `fuel` bounds their number. -/
def keyParts? : (fuel : Nat) → List Char → Option (List String × List Char)
  | 0, _ => none
  | fuel + 1, input =>
    match keyPart? (skipBlank input) with
    | none => none
    | some (part, rest) =>
      match skipBlank rest with
      | '.' :: after =>
        match keyParts? fuel after with
        | none => none
        | some (parts, last) => some (part :: parts, last)
      | after => some ([part], after)

/-- Reads a key: parts with dots between them. -/
def key? (input : List Char) : Option (List String × List Char) :=
  keyParts? (depthLimit - 1) input

end PageCapture.Toml
