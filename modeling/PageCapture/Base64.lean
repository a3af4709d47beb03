/-!
# Transport text

The sixty-four symbols of transport text are letters, digits, plus and slash, each standing for six
bits. `value?_symbol` says that reading a symbol gives back its number, `symbol_value?` that no
other byte is read as that number.

Three bytes are written as four symbols. One or two bytes that are left at the end are written as
two or three symbols, the missing bits being zero; nothing is added to fill the last group. The
text is a single line of symbols. `symbols` takes its bytes in groups of three, as
`symbols_cons_cons_cons` says.

A text is read in groups of four symbols, each giving three bytes; the last group, of one to four
symbols, gives one byte less than it has symbols, and its unused bits must be zero. Every other
text is refused with the first thing that is wrong with it:

1. a text whose length is one more than a multiple of four and whose last byte is not a symbol;
2. a byte in front of the last group that is not a symbol, the equals sign included;
3. a byte in the last group that is neither a symbol nor padding behind two symbols;
4. a last group of fewer than two symbols;
5. padding;
6. unused bits that are not zero.

Bytes and offsets are those of the text in UTF-8.
-/

set_option autoImplicit false
set_option relaxedAutoImplicit false

namespace PageCapture.Base64

/-! ### The alphabet -/

/-- The byte of the symbol for a number below sixty-four. -/
def symbol (n : Nat) : UInt8 :=
  if n < 26 then UInt8.ofNat (n + 65)
  else if n < 52 then UInt8.ofNat (n + 71)
  else if n < 62 then UInt8.ofNat (n - 4)
  else if n = 62 then 43
  else 47

/-- The number that a symbol stands for, if the byte is one. -/
def value? (byte : UInt8) : Option Nat :=
  let n := byte.toNat
  if 65 ≤ n ∧ n < 91 then some (n - 65)
  else if 97 ≤ n ∧ n < 123 then some (n - 71)
  else if 48 ≤ n ∧ n < 58 then some (n + 4)
  else if n = 43 then some 62
  else if n = 47 then some 63
  else none

/-- The byte of the equals sign, which pads other forms of base64 and is no symbol here. -/
def padding : UInt8 := 61

/-- The character of the symbol for a number below sixty-four. -/
def character (n : Nat) : Char := Char.ofNat (symbol n).toNat

/-- A symbol is read as the number it was written for. -/
theorem value?_symbol {n : Nat} (hn : n < 64) : value? (symbol n) = some n := by
  have hall : ∀ k : Fin 64, value? (symbol k.val) = some k.val := by decide
  exact hall ⟨n, hn⟩

/-- A byte that is read as a number is the symbol of that number, which is below sixty-four. -/
theorem symbol_value? {byte : UInt8} {n : Nat} (hvalue : value? byte = some n) :
    n < 64 ∧ symbol n = byte := by
  have hback : UInt8.ofNat byte.toNat = byte := UInt8.ofNat_toNat
  have hbound := byte.toNat_lt
  unfold value? at hvalue
  unfold symbol
  simp only at hvalue
  split at hvalue
  · cases hvalue
    rw [if_pos (by omega)]
    exact ⟨by omega, (congrArg UInt8.ofNat (by omega)).trans hback⟩
  split at hvalue
  · cases hvalue
    rw [if_neg (by omega), if_pos (by omega)]
    exact ⟨by omega, (congrArg UInt8.ofNat (by omega)).trans hback⟩
  split at hvalue
  · cases hvalue
    rw [if_neg (by omega), if_neg (by omega), if_pos (by omega)]
    exact ⟨by omega, (congrArg UInt8.ofNat (by omega)).trans hback⟩
  split at hvalue
  · rename_i hplus
    cases hvalue
    exact ⟨by decide, by rw [← hback, hplus]; rfl⟩
  split at hvalue
  · rename_i hslash
    cases hvalue
    exact ⟨by decide, by rw [← hback, hslash]; rfl⟩
  · cases hvalue

/-! ### Writing transport text -/

/-- The numbers of the four symbols for three bytes. -/
def sextets (a b c : UInt8) : Nat × Nat × Nat × Nat :=
  let n := a.toNat * 65536 + b.toNat * 256 + c.toNat
  (n / 262144, n / 4096 % 64, n / 64 % 64, n % 64)

/-- The numbers of the symbols for a row of bytes, behind those in `written`, the last first. -/
def sextetsOnto (written : List Nat) : List UInt8 → List Nat
  | a :: b :: c :: rest =>
    match sextets a b c with
    | (p, q, r, s) => sextetsOnto (s :: r :: q :: p :: written) rest
  | [a, b] =>
    match sextets a b 0 with
    | (p, q, r, _) => (r :: q :: p :: written).reverse
  | [a] =>
    match sextets a 0 0 with
    | (p, q, _, _) => (q :: p :: written).reverse
  | [] => written.reverse

/-- The numbers of the symbols for a row of bytes. -/
def symbols (bytes : List UInt8) : List Nat := sextetsOnto [] bytes

/-- The transport text of a row of bytes. -/
def encode (bytes : List UInt8) : String := String.ofList ((symbols bytes).map character)

/-- What has been written already stands in front. -/
theorem sextetsOnto_eq (written : List Nat) (bytes : List UInt8) :
    sextetsOnto written bytes = written.reverse ++ symbols bytes := by
  unfold symbols
  induction hlength : bytes.length using Nat.strongRecOn generalizing written bytes with
  | ind n ih =>
    match bytes, hlength with
    | [], _ => simp [sextetsOnto]
    | [a], _ => simp [sextetsOnto]
    | [a, b], _ => simp [sextetsOnto]
    | a :: b :: c :: rest, hlength =>
      have hshorter : rest.length < n := by
        simp only [List.length_cons] at hlength
        omega
      rw [sextetsOnto, sextetsOnto]
      simp only
      rw [ih rest.length hshorter _ rest rfl, ih rest.length hshorter [_, _, _, _] rest rfl]
      simp

/-- Three bytes in front are written as four symbols in front. -/
theorem symbols_cons_cons_cons (a b c : UInt8) (rest : List UInt8) :
    symbols (a :: b :: c :: rest) =
      (sextets a b c).1 :: (sextets a b c).2.1 :: (sextets a b c).2.2.1 ::
        (sextets a b c).2.2.2 :: symbols rest := by
  rw [symbols, sextetsOnto]
  simp [sextetsOnto_eq]

/-! ### Reading transport text -/

/-- What is wrong with a text that no bytes are written as. -/
inductive DecodeError where
  | invalidByte (byte : UInt8) (offset : Nat)
  | invalidLength (length : Nat)
  | invalidLastSymbol (byte : UInt8) (offset : Nat)
  | invalidPadding
  deriving DecidableEq, Repr

/-- The wording of an error. -/
def DecodeError.message : DecodeError → String
  | invalidByte byte offset =>
    "Invalid symbol " ++ toString byte.toNat ++ ", offset " ++ toString offset ++ "."
  | invalidLength length => "Invalid input length: " ++ toString length
  | invalidLastSymbol byte offset =>
    "Invalid last symbol " ++ toString byte.toNat ++ ", offset " ++ toString offset ++ "."
  | invalidPadding => "Invalid padding"

/-- The number of the symbol at an offset. -/
def symbolAt (offset : Nat) (byte : UInt8) : Except DecodeError Nat :=
  match value? byte with
  | some n => .ok n
  | none => .error (.invalidByte byte offset)

/-- The three bytes that four symbols write. -/
def triple (p q r s : Nat) : UInt8 × UInt8 × UInt8 :=
  let n := p * 262144 + q * 4096 + r * 64 + s
  (UInt8.ofNat (n / 65536), UInt8.ofNat (n / 256 % 256), UInt8.ofNat (n % 256))

/-- Reads the groups of four symbols from an offset on that something follows. The bytes read are
put in front of those in `read`, the last first; with them come the last group and its offset. -/
def groupsOnto (read : List UInt8) (offset : Nat) :
    List UInt8 → Except DecodeError (List UInt8 × Nat × List UInt8)
  | a :: b :: c :: d :: e :: rest => do
    let p ← symbolAt offset a
    let q ← symbolAt (offset + 1) b
    let r ← symbolAt (offset + 2) c
    let s ← symbolAt (offset + 3) d
    match triple p q r s with
    | (x, y, z) => groupsOnto (z :: y :: x :: read) (offset + 4) (e :: rest)
  | last => .ok (read, offset, last)

/-- What the last group holds: the numbers of its symbols, and the place of its first padding. -/
structure LastGroup where
  values : List Nat
  padding? : Option Nat

/-- Reads the bytes of the last group from place `place` on, `values` being those in front. -/
def lastGroup (offset : Nat) (values : List Nat) (padding? : Option Nat) (place : Nat) :
    List UInt8 → Except DecodeError LastGroup
  | [] => .ok ⟨values, padding?⟩
  | byte :: rest =>
    if byte = padding then
      if place < 2 then .error (.invalidByte byte (offset + place))
      else lastGroup offset values (some (padding?.getD place)) (place + 1) rest
    else
      match padding? with
      | some first => .error (.invalidByte padding (offset + first))
      | none => do
        let n ← symbolAt (offset + place) byte
        lastGroup offset (values ++ [n]) none (place + 1) rest

/-- The bytes of the last group, if its unused bits are zero. -/
def lastBytes? : List Nat → Option (List UInt8)
  | [p, q] => if q % 16 = 0 then some [(triple p q 0 0).1] else none
  | [p, q, r] =>
    if r % 4 = 0 then some [(triple p q r 0).1, (triple p q r 0).2.1] else none
  | [p, q, r, s] => some [(triple p q r s).1, (triple p q r s).2.1, (triple p q r s).2.2]
  | _ => some []

/-- The bytes that a row of symbols writes. -/
def decodeBytes (input : List UInt8) : Except DecodeError (List UInt8) :=
  match input.getLast? with
  | none => .ok []
  | some final =>
    if input.length % 4 = 1 ∧ final ≠ padding ∧ value? final = none then
      .error (.invalidByte final (input.length - 1))
    else do
      let (read, offset, last) ← groupsOnto [] 0 input
      let group ← lastGroup offset [] none 0 last
      let count := group.values.length
      if count < 2 then throw (.invalidLength (offset + count))
      if group.padding?.isSome then throw .invalidPadding
      match lastBytes? group.values with
      | some bytes => return read.reverseAux bytes
      | none => throw (.invalidLastSymbol (last.getLastD 0) (offset + count - 1))

/-- The bytes that a transport text writes. -/
def decode (text : String) : Except DecodeError (List UInt8) :=
  decodeBytes text.toUTF8.data.toList

end PageCapture.Base64
