/-!
# Data and forms

`Datum` is what a text in one of the two data formats of the program holds: a tree of scalars,
sequences and records. JSON and TOML texts are read into it and the program's own types are read
from it, so that a field of a record is treated alike whichever format it was written in. A scalar
that no field of the program takes, a fraction or a date, keeps the characters it was written with
(`Datum.other`): it may stand where it is ignored and nowhere else.

A form is the way in which values of a type stand in a data format: how one is written as a datum,
and which data are read as one. Records are read by name. A name that is not a field's is passed
over, a field that is given twice makes the record unreadable, and one that is missing does so
unless it has a default. A record may also be given as the sequence of its fields, of which the
last ones may be missing if they have defaults. An alternative is given by its name, or by a record
with that name and nothing behind it.

The two formats differ in two points, which are the fields of `Dialect`.
-/

set_option autoImplicit false
set_option relaxedAutoImplicit false

namespace PageCapture

/-! ### Trees of data -/

/-- A tree of scalars, sequences and records. -/
inductive Datum where
  /-- The mark of an absent value. -/
  | null
  | boolean (value : Bool)
  | integer (value : Int)
  | text (value : String)
  | sequence (items : List Datum)
  /-- Named members in the order they were written in; a name may occur more than once. -/
  | record (members : List (String × Datum))
  /-- A value that no field takes, as it was written. -/
  | other (written : String)
  deriving Repr, Inhabited

namespace Datum

/-- The truth value that a datum is. -/
def boolean? : Datum → Option Bool
  | boolean value => some value
  | _ => none

/-- The text that a datum is. -/
def text? : Datum → Option String
  | text value => some value
  | _ => none

/-- The integer between two bounds that a datum is, the upper bound excluded. -/
def integerIn? (lower upper : Int) : Datum → Option Int
  | integer value => if lower ≤ value ∧ value < upper then some value else none
  | _ => none

/-- The 32-bit signed number that a datum is. -/
def int32? (d : Datum) : Option Int32 :=
  (d.integerIn? (-2147483648) 2147483648).map Int32.ofInt

/-- The 64-bit signed number that a datum is. -/
def int64? (d : Datum) : Option Int64 :=
  (d.integerIn? (-9223372036854775808) 9223372036854775808).map Int64.ofInt

/-- The 32-bit unsigned number that a datum is. -/
def uint32? (d : Datum) : Option UInt32 :=
  (d.integerIn? 0 4294967296).map fun n ↦ UInt32.ofNat n.toNat

/-- The items of a sequence. -/
def items? : Datum → Option (List Datum)
  | sequence items => some items
  | _ => none

/-- A number of 32 signed bits as a datum. -/
def ofInt32 (n : Int32) : Datum := integer n.toInt

/-- A number of 32 unsigned bits as a datum. -/
def ofUInt32 (n : UInt32) : Datum := integer n.toNat

end Datum

/-! ### Forms -/

/-- What the two data formats do differently. -/
structure Dialect where
  /-- Whether a sequence that stands for a record may have items behind the last field's. -/
  surplusItems : Bool
  /-- Whether a datum says that nothing stands behind the name of an alternative. -/
  isNothing : Datum → Bool

/-- JSON: no surplus items, and `null` for nothing. -/
def Dialect.json : Dialect where
  surplusItems := false
  isNothing
    | .null => true
    | _ => false

/-- TOML: surplus items are passed over, and an empty sequence or record is nothing. -/
def Dialect.toml : Dialect where
  surplusItems := true
  isNothing
    | .sequence [] | .record [] => true
    | _ => false

/-- How values of a type stand in a data format. -/
class Form (α : Type) where
  write : α → Datum
  read? : Dialect → Datum → Option α

namespace Datum

/-- The members that are given by a name. -/
def named (name : String) (members : List (String × Datum)) : List Datum :=
  (members.filter fun member ↦ member.1 = name).map Prod.snd

/-- What is given for a field: nothing or one datum; a field that is given twice is unreadable. -/
def given? (members : List (String × Datum)) (name : String) : Option (Option Datum) :=
  match named name members with
  | [] => some none
  | [datum] => some (some datum)
  | _ => none

/-- What is given for each field of a record. -/
def fields? (dialect : Dialect) (names : List String) : Datum → Option (List (Option Datum))
  | sequence items =>
    if names.length < items.length ∧ dialect.surplusItems = false then none
    else some ((List.range names.length).map fun place ↦ items[place]?)
  | record members => names.mapM (given? members)
  | _ => none

/-- The name of an alternative. -/
def alternative? (dialect : Dialect) : Datum → Option String
  | text name => some name
  | record [(name, behind)] => if dialect.isNothing behind then some name else none
  | _ => none

end Datum

namespace Form

variable {α : Type} [Form α]

/-- Reads a field that must be given. -/
def required? (dialect : Dialect) : Option Datum → Option α
  | none => none
  | some datum => read? dialect datum

/-- Reads a field that has a default. -/
def default? (dialect : Dialect) (value : α) : Option Datum → Option α
  | none => some value
  | some datum => read? dialect datum

/-- Reads an alternative by its name. -/
def alternative? {β : Type} (dialect : Dialect) (names : List (String × β)) (datum : Datum) :
    Option β :=
  (datum.alternative? dialect).bind fun name ↦ names.lookup name

end Form

instance : Form Int32 where
  write := Datum.ofInt32
  read? _ := Datum.int32?

instance : Form UInt32 where
  write := Datum.ofUInt32
  read? _ := Datum.uint32?

instance : Form Bool where
  write := .boolean
  read? _ := Datum.boolean?

instance : Form String where
  write := .text
  read? _ := Datum.text?

instance {α : Type} [Form α] : Form (Option α) where
  write
    | none => .null
    | some value => Form.write value
  read? dialect
    | .null => some none
    | datum => (Form.read? dialect datum).map some

instance {α : Type} [Form α] : Form (List α) where
  write values := .sequence (values.map Form.write)
  read? dialect datum := datum.items?.bind fun items ↦ items.mapM (Form.read? dialect)

end PageCapture
