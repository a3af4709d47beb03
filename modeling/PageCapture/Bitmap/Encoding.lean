import PageCapture.Base64
import PageCapture.Bitmap.Basic
import PageCapture.Png
import PageCapture.Text

/-!
# From bitmap to picture

A bitmap is compressed to a PNG file, the channels of each pixel put into the order red, green,
blue and, where it has one, opacity; the file is then written as transport text. A bitmap whose
stride or data is too short for its size is refused before any of its rows is touched, with the
first thing that is wrong with it.
-/

set_option autoImplicit false
set_option relaxedAutoImplicit false

namespace PageCapture

/-- What is wrong with a bitmap that holds no picture. -/
inductive Malformation where
  /-- A row of the stride cannot hold the pixels of a row. -/
  | shortStride (stride rowLength : Nat)
  /-- The data cannot hold the rows. -/
  | shortData (size width height : Nat)
  deriving DecidableEq, Repr

/-- Why there is no picture of a bitmap. -/
inductive EncodeError where
  /-- There is no bitmap. -/
  | noImage
  | malformed (cause : Malformation)
  /-- A picture must have a column. -/
  | noColumns
  deriving DecidableEq, Repr

/-- The wording of a malformation. -/
def Malformation.message : Malformation → String
  | .shortStride stride rowLength =>
    "stride " ++ Decimal.numeral stride ++ " is shorter than a row of " ++
      Decimal.numeral rowLength ++ " bytes"
  | .shortData size width height =>
    Decimal.numeral size ++ " bytes cannot hold " ++ Decimal.numeral width ++ "x" ++
      Decimal.numeral height ++ " pixels"

/-- The wording of an error. -/
def EncodeError.message : EncodeError → String
  | .noImage => "no image was produced"
  | .malformed cause => "pixel buffer is malformed: " ++ cause.message
  | .noColumns => "PNG compression failed: zero width is not allowed"

/-- The kind of colour that the pixels of a format have. -/
def PixelFormat.colour : PixelFormat → Png.Colour
  | .bgra => .rgba
  | .bgrx => .rgb

/-- The samples of a row of pixels, behind those in `read`, the last first. -/
def samplesOnto (format : PixelFormat) (read : List UInt8) : List UInt8 → List UInt8
  | blue :: green :: red :: fourth :: rest =>
    match format with
    | .bgra => samplesOnto format (fourth :: blue :: green :: red :: read) rest
    | .bgrx => samplesOnto format (blue :: green :: red :: read) rest
  | _ => read.reverse

/-- The samples of a row of pixels: red, green, blue and, where it has a meaning, the fourth. -/
def PixelFormat.samples (format : PixelFormat) (row : List UInt8) : List UInt8 :=
  samplesOnto format [] row

namespace Bitmap

/-- The number of bytes that the data must have. -/
def required (b : Bitmap) : Except Fault Nat := do
  let whole ← Checked.position .multiply (b.stride.toNat * (b.height.toNat - 1))
  Checked.position .add (whole + b.rowLength)

/-- The picture that a bitmap holds. -/
def picture (b : Bitmap) : ExceptT EncodeError (Except Fault) Png.Image := do
  if b.stride.toNat < b.rowLength then
    throw (.malformed (.shortStride b.stride.toNat b.rowLength))
  let required ← (b.required : Except Fault Nat)
  if b.height = 0 ∨ b.data.size < required then
    throw (.malformed (.shortData b.data.size b.width.toNat b.height.toNat))
  let rows ← (b.rows : Except Fault (List (List UInt8)))
  if b.width = 0 then throw .noColumns
  return {
    width := b.width
    height := b.height
    colour := b.format.colour
    rows := rows.map b.format.samples }

end Bitmap

/-- A picture as a file and as transport text. -/
structure EncodedImage where
  file : List UInt8
  text : String

/-- The file and the transport text of the picture that a bitmap holds. -/
def encode (bitmap? : Option Bitmap) : ExceptT EncodeError (Except Fault) EncodedImage := do
  match bitmap? with
  | none => throw .noImage
  | some bitmap =>
    let file := Png.write (← bitmap.picture)
    return ⟨file, Base64.encode file⟩

end PageCapture
