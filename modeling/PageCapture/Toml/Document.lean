import PageCapture.Toml.Scalar
import PageCapture.Toml.Text

/-!
# TOML documents

A document builds its tables piece by piece. A table comes to be by its own header, by a header of
a table inside it, or by a key with dots, and each way closes it to some of the others: no value is
replaced, no table gets a second header, and a key with dots reaches into a table only if no header
of its own defined it. A header of a table may go through tables of any kind, and through the last
element of an array of tables. `Members.assign` gives a key its value, `Members.openTable` and
`Members.openElement` make the table of a header, and `Item.datum` is what an item holds once the
document is complete.

`Toml.read?` gives the datum that a TOML 1.0 text holds, a record of its top-level members, or
nothing if the text is not TOML. Values may stand inside each other, and keys may have parts, up to
a depth of 79. A byte order mark at the very start is passed over.

`Toml.write` gives the text of a record of sections: the header of each section, a line for each of
its members, and an empty line between sections. Strings stand in double quotes; the quote, the
backslash and the control characters are escaped. Names are written bare, and a member that is no
number, text or truth value is left out.
-/

set_option autoImplicit false
set_option relaxedAutoImplicit false

namespace PageCapture.Toml

/-! ### Tables -/

/-- How a table came to be. -/
inductive Origin where
  /-- By its own header; the top level and the elements of arrays count as such. -/
  | header
  /-- By the header of a table inside it. -/
  | path
  /-- By a key with dots. -/
  | dotted
  deriving DecidableEq, Repr

/-- What stands under a name in a document that is being read. -/
inductive Item where
  /-- A value, which is complete. -/
  | value (datum : Datum)
  | table (origin : Origin) (members : List (String × Item))
  /-- An array of tables, each made by a header of its own. -/
  | tables (elements : List (List (String × Item)))
  deriving Inhabited

/-- The items of a table by their names, each of which occurs once. -/
abbrev Members : Type := List (String × Item)

mutual

/-- What an item holds. -/
def Item.datum : Item → Datum
  | .value datum => datum
  | .table _ members => .record (membersData members)
  | .tables elements => .sequence (elementsData elements)

/-- What the items of a table hold. -/
def membersData : List (String × Item) → List (String × Datum)
  | [] => []
  | (name, item) :: members => (name, item.datum) :: membersData members

/-- What the elements of an array of tables hold. -/
def elementsData : List (List (String × Item)) → List Datum
  | [] => []
  | members :: elements => .record (membersData members) :: elementsData elements

end

namespace Members

/-- The table with a new item in the place of the one of the same name, or behind all others. -/
def put (name : String) (item : Item) : Members → Members
  | [] => [(name, item)]
  | (other, held) :: rest =>
    if other = name then (name, item) :: rest else (other, held) :: put name item rest

/-- The last element of an array of tables, changed. -/
def changeLast? (change : Members → Option Members) :
    List (List (String × Item)) → Option (List (List (String × Item)))
  | [] => none
  | [last] => (change last).map fun changed ↦ [changed]
  | element :: rest => (changeLast? change rest).map (element :: ·)

/-- Gives a key its value. `fits` tells whether the table may take a value that the key reaches
it by: the table in which the key stands may, and one that keys with dots made. -/
def assign (fits : Bool) : (key : List String) → Datum → Members → Option Members
  | [], _, _ => none
  | [name], datum, members =>
    if fits && (members.lookup name).isNone then some (put name (.value datum) members) else none
  | part :: next :: rest, datum, members =>
    match members.lookup part with
    | none =>
      (assign true (next :: rest) datum []).map fun inner ↦
        put part (.table .dotted inner) members
    | some (.table origin inner) =>
      if origin = .header then none
      else
        (assign (origin = .dotted) (next :: rest) datum inner).map fun changed ↦
          put part (.table origin changed) members
    | some (.tables elements) =>
      (changeLast? (assign false (next :: rest) datum) elements).map fun changed ↦
        put part (.tables changed) members
    | some (.value _) => none

/-- Changes the table that the parts of a header lead to, making those that are missing. -/
def within (change : Members → Option Members) : (parts : List String) → Members → Option Members
  | [], members => change members
  | part :: rest, members =>
    match members.lookup part with
    | none => (within change rest []).map fun inner ↦ put part (.table .path inner) members
    | some (.table origin inner) =>
      (within change rest inner).map fun changed ↦ put part (.table origin changed) members
    | some (.tables elements) =>
      (changeLast? (within change rest) elements).map fun changed ↦
        put part (.tables changed) members
    | some (.value _) => none

/-- Makes the table of a header, unless something is there that is more than a table which headers
inside it made. -/
def openTable (name : String) (members : Members) : Option Members :=
  match members.lookup name with
  | none => some (put name (.table .header []) members)
  | some (.table .path inner) => some (put name (.table .header inner) members)
  | some _ => none

/-- Makes a further element of an array of tables. -/
def openElement (name : String) (members : Members) : Option Members :=
  match members.lookup name with
  | none => some (put name (.tables [[]]) members)
  | some (.tables elements) => some (put name (.tables (elements ++ [[]])) members)
  | some _ => none

end Members

/-! ### Reading TOML -/

mutual

/-- Reads a value at a depth; `fuel` bounds the number of values and members. -/
def value? (fuel depth : Nat) (input : List Char) : Option (Datum × List Char) :=
  match fuel with
  | 0 => none
  | fuel + 1 =>
    match input with
    | '[' :: rest =>
      if depthLimit ≤ depth + 1 then none
      else
        match items? fuel (depth + 1) (skipLines false rest) with
        | some (items, after) => some (.sequence items, after)
        | none => none
    | '{' :: rest =>
      if depthLimit ≤ depth + 1 then none
      else
        match skipBlank rest with
        | '}' :: after => some (.record [], after)
        | first =>
          match inline? fuel (depth + 1) [] first with
          | some (members, after) => some (.record (membersData members), after)
          | none => none
    | '"' :: rest => (string? ('"' :: rest)).map fun (text, after) ↦ (.text text, after)
    | '\'' :: rest => (string? ('\'' :: rest)).map fun (text, after) ↦ (.text text, after)
    | start => scalar? start

/-- Reads the items of an array that are left, and its closing bracket. A comma may stand behind
the last item. -/
def items? (fuel depth : Nat) (input : List Char) : Option (List Datum × List Char) :=
  match fuel with
  | 0 => none
  | fuel + 1 =>
    match input with
    | ']' :: after => some ([], after)
    | start =>
      match value? fuel depth start with
      | none => none
      | some (item, rest) =>
        match skipLines false rest with
        | ']' :: after => some ([item], after)
        | ',' :: after =>
          match items? fuel depth (skipLines false after) with
          | some (items, last) => some (item :: items, last)
          | none => none
        | _ => none

/-- Reads the members of an inline table behind those in `members`, and its closing brace. -/
def inline? (fuel depth : Nat) (members : Members) (input : List Char) :
    Option (Members × List Char) :=
  match fuel with
  | 0 => none
  | fuel + 1 =>
    match key? input with
    | some (key, '=' :: start) =>
      match value? fuel depth (skipBlank start) with
      | none => none
      | some (datum, rest) =>
        match members.assign true key datum with
        | none => none
        | some assigned =>
          match skipBlank rest with
          | '}' :: after => some (assigned, after)
          | ',' :: after => inline? fuel depth assigned after
          | _ => none
    | _ => none

end

/-- The part of a document that has been read: its tables, and the parts of the header of the table
that members go to now. -/
structure Document where
  root : Members := []
  current : List String := []

namespace Document

/-- Reads a header from behind its opening bracket or brackets: makes its table and goes there. -/
def header? (document : Document) (closing : List Char)
    (make : String → Members → Option Members) (input : List Char) :
    Option (Document × List Char) :=
  match key? input with
  | none => none
  | some (parts, rest) =>
    if rest.take closing.length ≠ closing then none
    else
      match parts.getLast?, lineEnd? (rest.drop closing.length) with
      | some name, some after =>
        (document.root.within (make name) parts.dropLast).map fun root ↦
          ({ root, current := parts }, after)
      | _, _ => none

/-- Reads a member of the current table. -/
def member? (document : Document) (fuel : Nat) (input : List Char) :
    Option (Document × List Char) :=
  match key? input with
  | some (key, '=' :: start) =>
    match value? fuel 0 (skipBlank start) with
    | none => none
    | some (datum, rest) =>
      match lineEnd? rest with
      | none => none
      | some after =>
        (document.root.within (Members.assign true key datum) document.current).map fun root ↦
          ({ document with root }, after)
  | _ => none

/-- Reads the lines that are left; `fuel` bounds their number. -/
def lines? (size : Nat) : (fuel : Nat) → Document → List Char → Option Document
  | 0, _, _ => none
  | fuel + 1, document, input =>
    match skipBlank input with
    | [] => some document
    | '#' :: comment => (lineEnd? ('#' :: comment)).bind (lines? size fuel document)
    | '\n' :: rest => lines? size fuel document rest
    | '\r' :: '\n' :: rest => lines? size fuel document rest
    | '[' :: '[' :: rest =>
      match document.header? [']', ']'] Members.openElement rest with
      | none => none
      | some (next, after) => lines? size fuel next after
    | '[' :: rest =>
      match document.header? [']'] Members.openTable rest with
      | none => none
      | some (next, after) => lines? size fuel next after
    | start =>
      match document.member? size start with
      | none => none
      | some (next, after) => lines? size fuel next after

end Document

/-- The text behind a byte order mark. -/
def skipMark : List Char → List Char
  | c :: rest => if c = '\uFEFF' then rest else c :: rest
  | [] => []

/-- The datum that a TOML text holds. -/
def read? (text : String) : Option Datum :=
  let input := skipMark text.toList
  let size := input.length + 1
  (Document.lines? size size {} input).map fun document ↦ .record (membersData document.root)

/-! ### Writing TOML -/

/-- How a character stands inside a string. -/
def escape (c : Char) : List Char :=
  if c = '"' then ['\\', '"']
  else if c = '\\' then ['\\', '\\']
  else if c = '\n' then ['\\', 'n']
  else if c = '\r' then ['\\', 'r']
  else if c = '\t' then ['\\', 't']
  else if c = '\x08' then ['\\', 'b']
  else if c = '\x0c' then ['\\', 'f']
  else if c.toNat < 0x20 ∨ c.toNat = 0x7F then
    ['\\', 'u', '0', '0', Hexadecimal.digit (c.toNat / 16), Hexadecimal.digit c.toNat]
  else [c]

/-- The characters of a value that a member may have. -/
def valueCharacters? : Datum → Option (List Char)
  | .integer n => some (Decimal.characters n)
  | .boolean true => some ['t', 'r', 'u', 'e']
  | .boolean false => some ['f', 'a', 'l', 's', 'e']
  | .text text => some ('"' :: (text.toList.flatMap escape ++ ['"']))
  | _ => none

/-- The line of a member. -/
def memberLine (member : String × Datum) : List Char :=
  match valueCharacters? member.2 with
  | some value => member.1.toList ++ ' ' :: '=' :: ' ' :: (value ++ ['\n'])
  | none => []

/-- The lines of a section. -/
def sectionLines (entry : String × Datum) : List Char :=
  match entry.2 with
  | .record members => '[' :: (entry.1.toList ++ ']' :: '\n' :: members.flatMap memberLine)
  | _ => []

/-- The text of a record of sections. -/
def write : Datum → String
  | .record sections =>
    String.ofList (List.flatten ((sections.map sectionLines).intersperse ['\n']))
  | _ => ""

end PageCapture.Toml
