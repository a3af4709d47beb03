import PageCapture.Bytes

/-!
# PNG files

A picture is its header, the size and the meaning of the samples, and its rows of samples from the
top down. `Image.WellFormed` says that the rows are as many and as long as the header has it.

The picture data of a file is a zlib stream. It is written here without compression: the bytes
are cut into blocks of at most 65535, and each block stands behind its length and the complement of
its length. `expand?` reads such a stream back; it accepts stored blocks only, and only with the
check sum that fits.

A file is the signature and its sections: the header, the picture data and the end mark. Every
section carries its length, its kind and a check value over kind and body. The rows of the picture
stand one behind the other, each after a zero that says that its samples are unfiltered, in a
stored stream; the stream is cut into as many sections as its length takes.

`write` gives the file of a picture; `read?` gives the picture of a file of this form, and nothing
for any other.
-/

set_option autoImplicit false
set_option relaxedAutoImplicit false

namespace PageCapture.Png

/-! ### Pictures -/

/-- What the samples of a pixel are: the colour alone, or the colour and its opacity. -/
inductive Colour where
  | rgb
  | rgba
  deriving DecidableEq, Repr

/-- The number of samples in a pixel. -/
def Colour.channels : Colour → Nat
  | .rgb => 3
  | .rgba => 4

/-- The number that names the kind of colour in a file. -/
def Colour.code : Colour → UInt8
  | .rgb => 2
  | .rgba => 6

/-- The kind of colour that a number names. -/
def Colour.ofCode? (code : UInt8) : Option Colour :=
  if code = 2 then some .rgb else if code = 6 then some .rgba else none

/-- A picture with samples of one byte. -/
structure Image where
  width : UInt32
  height : UInt32
  colour : Colour
  /-- The samples of each row, the rows from the top down. -/
  rows : List (List UInt8)
  deriving DecidableEq, Repr

namespace Image

/-- The number of samples in a row. -/
def rowLength (image : Image) : Nat := image.width.toNat * image.colour.channels

/-- There is a row for each unit of the height and each row has the samples of the width. -/
def WellFormed (image : Image) : Prop :=
  image.width ≠ 0 ∧ image.rows.length = image.height.toNat ∧
    ∀ row ∈ image.rows, row.length = image.rowLength

/-- The samples of all rows, from the top down. -/
def samples (image : Image) : List UInt8 := image.rows.flatten

end Image

theorem Colour.ofCode?_code (colour : Colour) : Colour.ofCode? colour.code = some colour := by
  cases colour <;> rfl

/-! ### Stored streams -/

/-- The greatest number of bytes in a block. -/
def blockSize : Nat := 65535

/-- One stored block. -/
def storedBlock (final : Bool) (bytes : List UInt8) : List UInt8 :=
  (if final then 1 else 0) ::
    (Bytes.little16 bytes.length ++ (Bytes.little16 (blockSize - bytes.length) ++ bytes))

/-- The stored blocks for the pieces of a stream, the last one marked as final. -/
def storedBlocks : List (List UInt8) → List UInt8
  | [] => storedBlock true []
  | [last] => storedBlock true last
  | piece :: pieces => storedBlock false piece ++ storedBlocks pieces

/-- The zlib stream of a row of bytes. -/
def contract (bytes : List UInt8) : List UInt8 :=
  0x78 :: 0x01 :: (storedBlocks (chunks blockSize bytes) ++
    Bytes.big32 (UInt32.ofNat (Checksum.adler32 bytes)))

/-- Reads stored blocks up to the final one. The pieces read are put in front of those in `read`,
the last first; with them comes what follows the final block. -/
def blocksOnto (read : List (List UInt8)) :
    List UInt8 → Option (List (List UInt8) × List UInt8)
  | final :: a :: b :: c :: d :: rest =>
    let length := Bytes.ofLittle16 a b
    let piece := rest.take length
    if Bytes.ofLittle16 c d + length ≠ blockSize ∨ piece.length < length then none
    else if final = 1 then some (piece :: read, rest.drop length)
    else if final = 0 then blocksOnto (piece :: read) (rest.drop length)
    else none
  | _ => none
termination_by input => input.length
decreasing_by
  simp only [List.length_drop, List.length_cons]
  omega

/-- The bytes of a zlib stream of stored blocks. -/
def expand? : List UInt8 → Option (List UInt8)
  | 0x78 :: 0x01 :: blocks =>
    match blocksOnto [] blocks with
    | none => none
    | some (pieces, check) =>
      let bytes := pieces.reverse.flatten
      if check = Bytes.big32 (UInt32.ofNat (Checksum.adler32 bytes)) then some bytes else none
  | _ => none

/-! ### Files -/

/-- The eight bytes that every file begins with. -/
def signature : List UInt8 := [0x89, 0x50, 0x4E, 0x47, 0x0D, 0x0A, 0x1A, 0x0A]

/-- The kind of the section with the header. -/
def headerKind : List UInt8 := [0x49, 0x48, 0x44, 0x52]

/-- The kind of the section with the picture data. -/
def dataKind : List UInt8 := [0x49, 0x44, 0x41, 0x54]

/-- The kind of the section that ends the file. -/
def endKind : List UInt8 := [0x49, 0x45, 0x4E, 0x44]

/-- A section: length, kind, body and check value. -/
def part (kind body : List UInt8) : List UInt8 :=
  Bytes.big32 (UInt32.ofNat body.length) ++
    (kind ++ (body ++ Bytes.big32 (Checksum.crc32 (kind ++ body))))

/-- The body of the header: size, eight bits a sample, kind of colour, and three zeros for the one
way of compressing, of filtering and of ordering the rows. -/
def headerBody (image : Image) : List UInt8 :=
  Bytes.big32 image.width ++ (Bytes.big32 image.height ++ [8, image.colour.code, 0, 0, 0])

/-- The rows with the mark of their filter in front. -/
def scanlines (rows : List (List UInt8)) : List UInt8 := rows.flatMap (0 :: ·)

/-- The greatest number of bytes in the body of a section of picture data. -/
def greatestBody : Nat := 2147483647

/-- The sections of picture data for a stream. -/
def dataParts (stream : List UInt8) : List UInt8 :=
  (chunks greatestBody stream).flatMap (part dataKind)

/-- The file of a picture. -/
def write (image : Image) : List UInt8 :=
  signature ++ (part headerKind (headerBody image) ++
    (dataParts (contract (scanlines image.rows)) ++ part endKind []))

/-- What follows a row of bytes at the front of another. -/
def after? (front : List UInt8) (bytes : List UInt8) : Option (List UInt8) :=
  if bytes.take front.length = front then some (bytes.drop front.length) else none

/-- The body of the section of a kind that stands in front, and what follows it. -/
def readPart? (kind : List UInt8) (bytes : List UInt8) : Option (List UInt8 × List UInt8) := do
  let (length, named) ← Bytes.readBig32? bytes
  let rest ← after? kind named
  if rest.length < length.toNat then none
  else do
    let body := rest.take length.toNat
    let (check, next) ← Bytes.readBig32? (rest.drop length.toNat)
    if check = Checksum.crc32 (kind ++ body) then some (body, next) else none

/-- Reading a section uses up bytes. -/
theorem length_lt_of_readPart? {kind bytes body next : List UInt8}
    (hread : readPart? kind bytes = some (body, next)) : next.length < bytes.length := by
  simp only [readPart?, after?, Option.bind_eq_bind, Option.bind_eq_some_iff] at hread
  obtain ⟨⟨length, named⟩, hlength, rest, hrest, hbody⟩ := hread
  have hnamed := Bytes.length_lt_of_readBig32? hlength
  split at hrest
  · cases hrest
    split at hbody
    · cases hbody
    · obtain ⟨⟨check, behind⟩, hcheck, hsome⟩ := Option.bind_eq_some_iff.mp hbody
      have hbehind := Bytes.length_lt_of_readBig32? hcheck
      simp only [Option.ite_none_right_eq_some, Option.some.injEq, Prod.mk.injEq,
        List.length_drop] at hsome hbehind hnamed
      obtain ⟨-, -, rfl⟩ := hsome
      omega
  · cases hrest

/-- Reads sections of picture data as long as there are any. The bodies read are put in front of
those in `read`, the last first; with them comes what follows the last section. -/
def readDataOnto (read : List (List UInt8)) (bytes : List UInt8) :
    List (List UInt8) × List UInt8 :=
  match _ : readPart? dataKind bytes with
  | some (body, next) => readDataOnto (body :: read) next
  | none => (read, bytes)
termination_by bytes.length
decreasing_by exact length_lt_of_readPart? ‹_›

/-- The row behind the mark of its filter, if it is unfiltered and of the length given. -/
def readRow? (length : Nat) : List UInt8 → Option (List UInt8)
  | 0 :: row => if row.length = length then some row else none
  | _ => none

/-- The picture that a header describes, without its rows. -/
def readHeader? (body : List UInt8) : Option Image := do
  let (width, behindWidth) ← Bytes.readBig32? body
  let (height, rest) ← Bytes.readBig32? behindWidth
  match rest with
  | [8, code, 0, 0, 0] => (Colour.ofCode? code).map fun colour ↦ ⟨width, height, colour, []⟩
  | _ => none

/-- The picture of a file. -/
def read? (file : List UInt8) : Option Image := do
  let sections ← after? signature file
  let (header, behindHeader) ← readPart? headerKind sections
  let (bodies, behindData) := readDataOnto [] behindHeader
  let (final, rest) ← readPart? endKind behindData
  let frame ← readHeader? header
  let lines := chunks (frame.rowLength + 1) (← expand? bodies.reverse.flatten)
  let rows ← lines.mapM (readRow? frame.rowLength)
  if final = [] ∧ rest = [] ∧ rows.length = frame.height.toNat then some { frame with rows }
  else none

end PageCapture.Png
