import PageCapture.Bytes
import PageCapture.Geometry

/-!
# Bitmaps

Pixels of four bytes in rows from the top down. A row takes `stride` bytes, of which those behind
the pixels are padding; bytes may also follow the last row. Nothing ties the fields together: a
bitmap whose data is too short for its size is a value too, and reaching for a pixel that is not
there is a fault.

The value of a pixel is its four bytes, the least significant first. `Bitmap.Sound` says that
every pixel has its bytes; `Bitmap.blank?` gives bitmaps that are sound.

A picture of a window that has not been drawn yet shows one colour. `Bitmap.isUniform` tells
whether all pixels of a sample, the part of the bitmap at its top left corner that is checked, have
the value of the very first pixel. A sample without pixels is uniform.
-/

set_option autoImplicit false
set_option relaxedAutoImplicit false

namespace PageCapture

/-! ### Pixels and rows -/

/-- What the four bytes of a pixel are. -/
inductive PixelFormat where
  /-- Blue, green, red and opacity. -/
  | bgra
  /-- Blue, green, red and a byte without meaning. -/
  | bgrx
  deriving DecidableEq, Repr, Inhabited

/-- Rows of pixels of four bytes. -/
structure Bitmap where
  width : UInt32
  height : UInt32
  /-- The number of bytes from the start of a row to the start of the next. -/
  stride : UInt64
  format : PixelFormat
  data : Array UInt8
  deriving DecidableEq, Repr, Inhabited

namespace Bitmap

/-- The number of bytes in a pixel. -/
def pixelSize : Nat := 4

/-- The number of bytes that the pixels of a row take. -/
def rowLength (b : Bitmap) : Nat := b.width.toNat * pixelSize

/-- The number of pixels. -/
def pixelCount (b : Bitmap) : Nat := b.width.toNat * b.height.toNat

/-- Every pixel has bytes of its own. -/
def Sound (b : Bitmap) : Prop :=
  b.width ≠ 0 ∧ b.height ≠ 0 ∧ b.rowLength ≤ b.stride.toNat ∧
    b.stride.toNat * (b.height.toNat - 1) + b.rowLength ≤ b.data.size

/-- The bitmap of a size with every byte zero and no padding; there is none of a size below one or
of more bytes than can be addressed. -/
def blank? (width height : Int32) (format : PixelFormat) : Option Bitmap :=
  let stride := width.toInt.toNat * pixelSize
  if width < 1 ∨ height < 1 ∨ 9223372036854775808 ≤ stride * height.toInt.toNat then none
  else some {
    width := UInt32.ofNat width.toInt.toNat
    height := UInt32.ofNat height.toInt.toNat
    stride := UInt64.ofNat stride
    format
    data := Array.replicate (stride * height.toInt.toNat) 0 }

/-- The place of the first byte of a pixel, wherever the data ends. -/
@[inline]
def place (b : Bitmap) (x y : Nat) : Except Fault Nat := do
  let row ← Checked.position .multiply (y * b.stride.toNat)
  let column ← Checked.position .multiply (x * pixelSize)
  let start ← Checked.position .add (row + column)
  let _ ← Checked.position .add (start + pixelSize)
  return start

/-- The value of the four bytes from a place on. -/
@[inline]
def wordAt (data : Array UInt8) (start : Nat) (hinside : start + 4 ≤ data.size) : UInt32 :=
  Bytes.ofLittle32 data[start] data[start + 1] data[start + 2] data[start + 3]

/-- The data with the four bytes of a value from a place on. -/
@[inline]
def writeWord (data : Array UInt8) (start : Nat) (hinside : start + 4 ≤ data.size)
    (value : UInt32) : Array UInt8 :=
  (((data.set start (Bytes.byteOf value.toNat 0)).set (start + 1) (Bytes.byteOf value.toNat 1)
    (by simp; omega)).set (start + 2) (Bytes.byteOf value.toNat 2) (by simp; omega)).set (start + 3)
    (Bytes.byteOf value.toNat 3) (by simp; omega)

/-- The value of a pixel. -/
def pixel (b : Bitmap) (x y : Nat) : Except Fault UInt32 :=
  match b.place x y with
  | .error fault => .error fault
  | .ok start =>
    if hinside : start + 4 ≤ b.data.size then .ok (wordAt b.data start hinside)
    else .error .outOfBounds

/-- Gives a pixel its value. -/
@[inline]
def setPixel (x y : Nat) (value : UInt32) : Action Bitmap Unit :=
  Action.ofResults fun b ↦
    match b.place x y with
    | .error fault => (.error fault, b)
    | .ok start =>
      if hinside : start + 4 ≤ b.data.size then
        (.ok (), { b with data := writeWord b.data start hinside value })
      else (.error .outOfBounds, b)

/-- Gives values to pixels from number `next` on, in reading order: row by row from the top, each
row from the left. -/
def paintFrom (value : Nat → Nat → UInt32) :
    (count next : Nat) → (b : Bitmap) → Except Fault Unit × Bitmap
  | 0, _, b => (.ok (), b)
  | count + 1, next, b =>
    let width := b.width.toNat
    let x := next % width
    let y := next / width
    match (setPixel x y (value x y)).results b with
    | (.ok _, painted) => paintFrom value count (next + 1) painted
    | (.error fault, painted) => (.error fault, painted)

/-- Gives every pixel the value for its column and row. A fault leaves the pixels in front of the
one that it happened at painted. -/
def paint (value : Nat → Nat → UInt32) : Action Bitmap Unit :=
  Action.ofResults fun b ↦ paintFrom value b.pixelCount 0 b

/-- Gives every pixel one value. -/
def fill (value : UInt32) : Action Bitmap Unit := paint fun _ _ ↦ value

/-- A row without its padding, if it has all its pixels. -/
def row (b : Bitmap) (y : Nat) : Except Fault (List UInt8) :=
  let start := y * b.stride.toNat
  if b.data.size < start + b.rowLength ∨ b.stride.toNat < b.rowLength then .error .outOfBounds
  else .ok (b.data.extract start (start + b.rowLength)).toList

/-- The number of rows of which the data has at least one byte, the height at most. -/
def rowCount (b : Bitmap) : Nat :=
  min b.height.toNat ((b.data.size + b.stride.toNat - 1) / b.stride.toNat)

/-- The rows without their padding, from the top down, as far as the data goes. -/
def rows (b : Bitmap) : Except Fault (List (List UInt8)) :=
  if b.stride = 0 then .error .zeroStride else (List.range b.rowCount).mapM b.row

/-! ### Uniform bitmaps -/

/-- A number of 32 unsigned bits read as a signed one. -/
def signed (n : UInt32) : Int32 := n.toInt32

/-- Whether the pixels from number `next` on, in the reading order of a sample `width` wide, have
a value. -/
def uniformFrom (b : Bitmap) (value : UInt32) (width : Nat) :
    (count next : Nat) → Except Fault Bool
  | 0, _ => .ok true
  | count + 1, next =>
    match b.pixel (next % width) (next / width) with
    | .error fault => .error fault
    | .ok found => if found = value then uniformFrom b value width count (next + 1) else .ok false

/-- Whether all pixels of the sample of a size, cut to the bitmap, have the value of the first
pixel of the bitmap. -/
def isUniform (b : Bitmap) (sample : Size) : Except Fault Bool := do
  let width ← clamp sample.width 0 (signed b.width)
  let height ← clamp sample.height 0 (signed b.height)
  let first ← b.pixel 0 0
  uniformFrom b first width.toInt.toNat (width.toInt.toNat * height.toInt.toNat) 0

end Bitmap

end PageCapture
