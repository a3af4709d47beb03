/-!
# Characters and numerals

What the program's texts are made of. `isBlank` tells the characters with the Unicode property
`White_Space`. An integer is written in decimal, a minus sign where it is negative and digits
without leading zeros; `Decimal.value_digits` reads the digits of a number back. Digits of base
sixteen are read in either case and written in lower case, two for a byte and four for a UTF-16 code
unit.

Arguments and file contents come as bytes that are meant to be UTF-8. `Utf8.decode?` reads them if
they are, and `Utf8.decode?_encode` says that the bytes of a text read back as that text;
`Utf8.lossy` reads any bytes, with a replacement character for each piece that is not UTF-8: the
longest beginning of a character there is, or else a single byte.
-/

set_option autoImplicit false
set_option relaxedAutoImplicit false

namespace PageCapture

/-! ### Blank characters -/

/-- Whether a character has the property `White_Space`. -/
def isBlank (c : Char) : Bool :=
  let n := c.toNat
  (0x09 ≤ n && n ≤ 0x0D) || n = 0x20 || n = 0x85 || n = 0xA0 || n = 0x1680 ||
    (0x2000 ≤ n && n ≤ 0x200A) || n = 0x2028 || n = 0x2029 || n = 0x202F || n = 0x205F ||
    n = 0x3000

/-- Whether a text has no character that is not blank. -/
def isBlankText (text : String) : Bool := text.toList.all isBlank

/-! ### Decimal numerals -/

namespace Decimal

/-- The decimal digits of a natural number. -/
def digits (n : Nat) : List Char := Nat.toDigits 10 n

/-- The number that a row of decimal digits stands for. -/
def value (digits : List Char) : Nat := Nat.ofDigitChars 10 digits 0

/-- The characters of an integer's numeral. -/
def characters : Int → List Char
  | .ofNat n => digits n
  | .negSucc n => '-' :: digits (n + 1)

/-- The numeral of an integer. -/
def numeral (n : Int) : String := String.ofList (characters n)

/-- The digits of a number read back as that number. -/
theorem value_digits (n : Nat) : value (digits n) = n :=
  Nat.ofDigitChars_toDigits (by decide) (by decide)

end Decimal

/-! ### Hexadecimal digits -/

namespace Hexadecimal

/-- The value of a digit of base sixteen, in either case. -/
def digitValue? (c : Char) : Option Nat :=
  if '0' ≤ c ∧ c ≤ '9' then some (c.toNat - '0'.toNat)
  else if 'a' ≤ c ∧ c ≤ 'f' then some (c.toNat - 'a'.toNat + 10)
  else if 'A' ≤ c ∧ c ≤ 'F' then some (c.toNat - 'A'.toNat + 10)
  else none

/-- The number that a row of digits of base sixteen stands for. -/
def value? (digits : List Char) : Option Nat :=
  digits.foldlM (fun n c ↦ (digitValue? c).map (16 * n + ·)) 0

/-- The digit that writes a number below sixteen. -/
def digit (n : Nat) : Char := Nat.digitChar (n % 16)

/-- The two digits that write a byte. -/
def byteDigits (byte : UInt8) : List Char := [digit (byte.toNat / 16), digit byte.toNat]

/-- The two digits for each of a row of bytes. -/
def ofBytes (bytes : List UInt8) : String := String.ofList (bytes.flatMap byteDigits)

/-- The bytes that a row of digit pairs writes, read before any in `read`. -/
def bytesOnto (read : List UInt8) : List Char → Option (List UInt8)
  | [] => some read.reverse
  | high :: low :: rest =>
    match digitValue? high, digitValue? low with
    | some h, some l => bytesOnto (UInt8.ofNat (16 * h + l) :: read) rest
    | _, _ => none
  | [_] => none

/-- The bytes that a text of digit pairs writes. -/
def toBytes? (text : String) : Option (List UInt8) := bytesOnto [] text.toList

end Hexadecimal

/-! ### Text from outside -/

namespace Utf8

/-- The bytes of a text. -/
def encode (text : String) : List UInt8 := text.toUTF8.data.toList

/-- The text that bytes are. -/
def decode? (bytes : List UInt8) : Option String := String.fromUTF8? ⟨bytes.toArray⟩

/-- A character that has begun: the number of bytes still to come, the range of the next of them,
and the number that the bytes so far make up. -/
structure Pending where
  left : Nat
  lower : Nat
  upper : Nat
  value : Nat

/-- The character that a first byte begins, or the character that it is. -/
def first (byte : Nat) : Char ⊕ Pending :=
  let replacement := Char.ofNat 0xFFFD
  if byte < 0x80 then .inl (Char.ofNat byte)
  else if byte < 0xC2 then .inl replacement
  else if byte < 0xE0 then .inr ⟨1, 0x80, 0xBF, byte - 0xC0⟩
  else if byte < 0xF0 then
    .inr ⟨2, if byte = 0xE0 then 0xA0 else 0x80, if byte = 0xED then 0x9F else 0xBF, byte - 0xE0⟩
  else if byte < 0xF5 then
    .inr ⟨3, if byte = 0xF0 then 0x90 else 0x80, if byte = 0xF4 then 0x8F else 0xBF, byte - 0xF0⟩
  else .inl replacement

/-- The state of a reading: the characters so far, the last first, and the one that has begun. -/
abbrev Reading : Type := List Char × Option Pending

/-- A reading that has no character begun, after a byte more. -/
def begin (read : List Char) (byte : Nat) : Reading :=
  match first byte with
  | .inl c => (c :: read, none)
  | .inr pending => (read, some pending)

/-- A reading after a byte more. -/
def step (reading : Reading) (byte : UInt8) : Reading :=
  match reading.2 with
  | none => begin reading.1 byte.toNat
  | some pending =>
    let n := byte.toNat
    if pending.lower ≤ n ∧ n ≤ pending.upper then
      let value := 64 * pending.value + (n - 0x80)
      if pending.left ≤ 1 then (Char.ofNat value :: reading.1, none)
      else (reading.1, some ⟨pending.left - 1, 0x80, 0xBF, value⟩)
    else begin (Char.ofNat 0xFFFD :: reading.1) n

/-- The text of any bytes, with a replacement character for each piece that is none. -/
def lossy (bytes : List UInt8) : String :=
  let reading := bytes.foldl step ([], none)
  let read := if reading.2.isSome then Char.ofNat 0xFFFD :: reading.1 else reading.1
  String.ofList read.reverse

theorem decode?_encode (text : String) : decode? (encode text) = some text := by
  have hsame : (⟨(encode text).toArray⟩ : ByteArray) = text.toByteArray := by
    simp [encode, String.toUTF8]
  unfold decode?
  rw [hsame]
  unfold String.fromUTF8?
  simp [text.isValidUTF8, String.fromUTF8]

end Utf8

end PageCapture
