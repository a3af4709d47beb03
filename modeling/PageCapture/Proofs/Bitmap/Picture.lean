import PageCapture.Bitmap.Encoding
import PageCapture.Proofs.Action.Checked
import PageCapture.Proofs.Bitmap.Pixels

/-!
# Pictures of bitmaps

What the pixels of a readable bitmap look like as a picture. `drawing` is the picture whose pixels
have given values, and `Readable.picture` says that it is the picture of a bitmap with these values:
the padding of the rows is left out, the channels change their order, and nothing is refused.

`pixel?` reads a pixel off a picture; `pixel?_drawing` is what it finds in a drawing.
-/

set_option autoImplicit false
set_option relaxedAutoImplicit false

namespace PageCapture

/-! ### Lists of pieces of one length -/

section Pieces

variable {α : Type}

/-- The front of a list in pieces of one length. -/
theorem take_eq_flatMap_range (items : List α) (length count : Nat) :
    items.take (count * length) =
      (List.range count).flatMap fun n ↦ (items.drop (n * length)).take length := by
  induction count with
  | zero => simp
  | succ count ih =>
    rw [Nat.succ_mul, List.take_add, ih, List.range_succ, List.flatMap_append]
    simp

theorem flatMap_range_congr {pieces others : Nat → List α} {count : Nat}
    (hpieces : ∀ n < count, pieces n = others n) :
    (List.range count).flatMap pieces = (List.range count).flatMap others := by
  rw [List.flatMap_def, List.flatMap_def]
  exact congrArg List.flatten (List.map_congr_left fun n hn ↦ hpieces n (List.mem_range.mp hn))

theorem length_flatMap_range {pieces : Nat → List α} {length : Nat}
    (hlength : ∀ n, (pieces n).length = length) (count : Nat) :
    ((List.range count).flatMap pieces).length = count * length := by
  induction count with
  | zero => simp
  | succ count ih => simp [List.range_succ, ih, hlength, Nat.succ_mul]

/-- One piece of a list of pieces of one length. -/
theorem take_drop_flatMap_range {pieces : Nat → List α} {length count n : Nat}
    (hlength : ∀ n, (pieces n).length = length) (hn : n < count) :
    (((List.range count).flatMap pieces).drop (n * length)).take length = pieces n := by
  obtain ⟨more, rfl⟩ := Nat.exists_eq_add_of_lt hn
  rw [Nat.add_assoc, List.range_add, List.flatMap_append,
    List.drop_left' (length_flatMap_range hlength n), Nat.add_comm more 1, List.range_add]
  simp [hlength]

end Pieces

/-! ### Pictures with given pixels -/

/-- The samples of a pixel with a value. -/
def PixelFormat.samplesOf (format : PixelFormat) (value : UInt32) : List UInt8 :=
  match format with
  | .bgra => [Bytes.byteOf value.toNat 2, Bytes.byteOf value.toNat 1, Bytes.byteOf value.toNat 0,
      Bytes.byteOf value.toNat 3]
  | .bgrx => [Bytes.byteOf value.toNat 2, Bytes.byteOf value.toNat 1, Bytes.byteOf value.toNat 0]

@[simp]
theorem PixelFormat.length_samplesOf (format : PixelFormat) (value : UInt32) :
    (format.samplesOf value).length = format.colour.channels := by
  cases format <;> rfl

/-- The picture of a size whose pixels have the values for their columns and rows. -/
def drawing (width height : UInt32) (format : PixelFormat) (value : Nat → Nat → UInt32) :
    Png.Image where
  width := width
  height := height
  colour := format.colour
  rows := (List.range height.toNat).map fun y ↦
    (List.range width.toNat).flatMap fun x ↦ format.samplesOf (value x y)

theorem drawing_wellFormed {width height : UInt32} (hwidth : width ≠ 0) (format : PixelFormat)
    (value : Nat → Nat → UInt32) : (drawing width height format value).WellFormed := by
  refine ⟨hwidth, by simp [drawing], fun row hrow ↦ ?_⟩
  obtain ⟨y, -, rfl⟩ := List.mem_map.mp hrow
  exact length_flatMap_range (fun x ↦ PixelFormat.length_samplesOf format _) _

/-- The samples of a pixel of a picture, if it is inside. -/
def Png.Image.pixel? (image : Png.Image) (x y : Nat) : Option (List UInt8) :=
  if x < image.width.toNat then
    image.rows[y]?.map fun row ↦ (row.drop (x * image.colour.channels)).take image.colour.channels
  else none

theorem pixel?_drawing {width height : UInt32} (format : PixelFormat)
    (value : Nat → Nat → UInt32) {x y : Nat} (hx : x < width.toNat) (hy : y < height.toNat) :
    (drawing width height format value).pixel? x y = some (format.samplesOf (value x y)) := by
  simp only [Png.Image.pixel?, drawing, if_pos hx, List.getElem?_map, List.getElem?_range hy,
    Option.map_some]
  rw [take_drop_flatMap_range (fun x ↦ PixelFormat.length_samplesOf format _) hx]

/-! ### The picture of a bitmap -/

/-- The samples of what has been read stand in front. -/
theorem samplesOnto_eq (format : PixelFormat) (read row : List UInt8) :
    samplesOnto format read row = read.reverse ++ format.samples row := by
  unfold PixelFormat.samples
  match row with
  | blue :: green :: red :: fourth :: rest =>
    have hfront := fun front ↦ samplesOnto_eq format front rest
    cases format <;> simp only [samplesOnto, hfront] <;> simp
  | [] | [_] | [_, _] | [_, _, _] => simp [samplesOnto]

/-- A row of whole pixels has the samples of as many. -/
theorem PixelFormat.length_samples (format : PixelFormat) {row : List UInt8} {count : Nat}
    (hrow : row.length = count * Bitmap.pixelSize) :
    (format.samples row).length = count * format.colour.channels := by
  induction count generalizing row with
  | zero =>
    rw [Nat.zero_mul] at hrow ⊢
    rw [List.length_eq_zero_iff.mp hrow]
    rfl
  | succ count ih =>
    rw [Nat.succ_mul, Bitmap.pixelSize] at hrow
    rcases row with _ | ⟨blue, _ | ⟨green, _ | ⟨red, _ | ⟨fourth, rest⟩⟩⟩⟩
    case cons.cons.cons.cons =>
      have hcount : rest.length = count * Bitmap.pixelSize := by
        simpa [Bitmap.pixelSize] using hrow
      obtain ⟨front, hfront, hsamples⟩ : ∃ front : List UInt8,
          front.length = format.colour.channels ∧
          format.samples (blue :: green :: red :: fourth :: rest) =
            front ++ format.samples rest := by
        cases format with
        | bgra => exact ⟨[red, green, blue, fourth], rfl, samplesOnto_eq _ _ rest⟩
        | bgrx => exact ⟨[red, green, blue], rfl, samplesOnto_eq _ _ rest⟩
      rw [hsamples, List.length_append, hfront, ih hcount, Nat.succ_mul, Nat.add_comm]
    all_goals simp at hrow

/-- The bytes of a value, the least significant first. -/
def wordBytes (value : UInt32) : List UInt8 :=
  [Bytes.byteOf value.toNat 0, Bytes.byteOf value.toNat 1, Bytes.byteOf value.toNat 2,
    Bytes.byteOf value.toNat 3]

theorem PixelFormat.samples_wordBytes_append (format : PixelFormat) (value : UInt32)
    (rest : List UInt8) :
    format.samples (wordBytes value ++ rest) = format.samplesOf value ++ format.samples rest := by
  cases format <;> exact samplesOnto_eq _ _ rest

/-- The samples of a row of pixels with some values. -/
theorem PixelFormat.samples_flatMap (format : PixelFormat) (values : List UInt32) :
    format.samples (values.flatMap wordBytes) = values.flatMap format.samplesOf := by
  induction values with
  | nil => rfl
  | cons value rest ih => rw [List.flatMap_cons, List.flatMap_cons, samples_wordBytes_append, ih]

/-- The bytes of the value that four bytes are read as are these bytes. -/
theorem wordBytes_ofLittle32 (a b c d : UInt8) :
    wordBytes (Bytes.ofLittle32 a b c d) = [a, b, c, d] := by
  have hvalue : (Bytes.ofLittle32 a b c d).toNat =
      a.toNat + 256 * b.toNat + 65536 * c.toNat + 16777216 * d.toNat := by
    have ha := a.toNat_lt
    have hb := b.toNat_lt
    have hc := c.toNat_lt
    have hd := d.toNat_lt
    exact UInt32.toNat_ofNat_of_lt' (by simp only [UInt32.size]; omega)
  have hbyte : ∀ (byte : UInt8) (n : Nat), n % 256 = byte.toNat → UInt8.ofNat n = byte :=
    fun byte n hn ↦ UInt8.toNat_inj.mp (by rw [UInt8.toNat_ofNat', ← hn])
  have ha := a.toNat_lt
  have hb := b.toNat_lt
  have hc := c.toNat_lt
  have hd := d.toNat_lt
  simp only [wordBytes, Bytes.byteOf, hvalue, Nat.pow_eq, List.cons.injEq, and_true]
  refine ⟨hbyte a _ ?_, hbyte b _ ?_, hbyte c _ ?_, hbyte d _ ?_⟩ <;> omega

namespace Bitmap

/-- The bytes from a place on are those of the value there. -/
theorem take_drop_eq_wordBytes {data : Array UInt8} {start : Nat}
    (hinside : start + 4 ≤ data.size) :
    (data.toList.drop start).take 4 = wordBytes (wordAt data start hinside) := by
  rw [wordAt, wordBytes_ofLittle32]
  have hstep : ∀ place (hplace : place < data.size),
      data.toList.drop place = data[place] :: data.toList.drop (place + 1) :=
    fun place hplace ↦ List.drop_eq_getElem_cons (by simpa using hplace)
  rw [hstep start (by omega), hstep (start + 1) (by omega), hstep (start + 2) (by omega),
    hstep (start + 3) (by omega)]
  rfl

/-- A row of a readable bitmap with some values holds their bytes. -/
theorem Readable.row {b : Bitmap} (hb : b.Readable) {value : Nat → Nat → UInt32}
    (hholds : b.Holds value) {y : Nat} (hy : y < b.height.toNat) :
    b.row y = .ok (((List.range b.width.toNat).map (value · y)).flatMap wordBytes) := by
  have hrow := hb.sound.2.2.1
  have hlast := hb.offset_add_le (Nat.sub_lt hb.width_pos Nat.one_pos) hy
  have hwide := hb.width_pos
  simp only [offset, pixelSize] at hlast
  unfold Bitmap.row
  simp only
  rw [if_neg (by simp only [rowLength, pixelSize] at *; omega), Array.toList_extract,
    List.extract_eq_take_drop, Nat.add_sub_cancel_left, rowLength, pixelSize,
    take_eq_flatMap_range, List.flatMap_map]
  refine congrArg _ (flatMap_range_congr fun x hx ↦ ?_)
  have hvalue := hholds x y hx hy
  rw [hb.pixel hx hy, Except.ok.injEq] at hvalue
  rw [List.drop_drop, ← hvalue]
  exact take_drop_eq_wordBytes (hb.offset_add_le hx hy)

theorem Sound.stride_ne_zero {b : Bitmap} (hb : b.Sound) : b.stride ≠ 0 := by
  intro hzero
  have hpositive := hb.stride_pos
  rw [hzero, UInt64.toNat_zero] at hpositive
  exact absurd hpositive (Nat.lt_irrefl 0)

/-- All rows of a sound bitmap are there. -/
theorem Sound.rowCount {b : Bitmap} (hb : b.Sound) : b.rowCount = b.height.toNat := by
  have hwide := hb.width_pos
  refine Nat.min_eq_left ((Nat.le_div_iff_mul_le hb.stride_pos).mpr ?_)
  obtain ⟨rest, hrest⟩ := Nat.exists_eq_add_of_lt hb.height_pos
  obtain ⟨-, -, hrow, hrows⟩ := hb
  rw [Nat.zero_add] at hrest
  rw [hrest, Nat.add_sub_cancel, Nat.mul_comm] at hrows
  rw [hrest, Nat.succ_mul]
  simp only [rowLength, pixelSize] at hrows
  omega

theorem Readable.rows {b : Bitmap} (hb : b.Readable) {value : Nat → Nat → UInt32}
    (hholds : b.Holds value) :
    b.rows = .ok ((List.range b.height.toNat).map fun y ↦
      ((List.range b.width.toNat).map (value · y)).flatMap wordBytes) := by
  rw [Bitmap.rows, if_neg hb.sound.stride_ne_zero, hb.sound.rowCount]
  exact mapM_of_forall fun y hy ↦ hb.row hholds (List.mem_range.mp hy)

/-- The number of bytes from the first pixel to the last, for rows that fit the stride. -/
def extent (b : Bitmap) : Nat := b.stride.toNat * (b.height.toNat - 1) + b.rowLength

theorem required_eq {b : Bitmap} (hinside : b.extent < Checked.addressRange) :
    b.required = .ok b.extent := by
  unfold required
  rw [Checked.position_eq_ok_iff.mpr ⟨rfl, Nat.lt_of_le_of_lt (Nat.le_add_right ..) hinside⟩]
  exact Checked.position_eq_ok_iff.mpr ⟨rfl, hinside⟩

/-- A checked computation with a value inside one that may also refuse. -/
theorem lift_bind {α β : Type} (known : α) (next : α → ExceptT EncodeError (Except Fault) β) :
    (liftM (.ok known : Except Fault α) >>= next) = next known :=
  rfl

/-- The picture of a readable bitmap with some values is the drawing of these values. -/
theorem Readable.picture {b : Bitmap} (hb : b.Readable) {value : Nat → Nat → UInt32}
    (hholds : b.Holds value) :
    b.picture.run = .ok (.ok (drawing b.width b.height b.format value)) := by
  obtain ⟨hwidth, hheight, hrow, hrows⟩ := hb.sound
  have hrequired : b.required = .ok b.extent :=
    required_eq (Nat.lt_of_le_of_lt hrows hb.addressable)
  have hlong : ¬ (b.height = 0 ∨ b.data.size < b.extent) :=
    not_or.mpr ⟨hheight, Nat.not_lt.mpr hrows⟩
  unfold Bitmap.picture
  rw [if_neg (by omega), hrequired, hb.rows hholds]
  change ExceptT.run (liftM _ >>= _) = _
  rw [lift_bind, if_neg hlong]
  change ExceptT.run (liftM _ >>= _) = _
  rw [lift_bind, if_neg hwidth, List.map_map]
  have hsamples : ∀ y, b.format.samples
      (((List.range b.width.toNat).map (value · y)).flatMap wordBytes) =
      (List.range b.width.toNat).flatMap fun x ↦ b.format.samplesOf (value x y) :=
    fun y ↦ by rw [PixelFormat.samples_flatMap, List.flatMap_map]
  simp only [drawing, Function.comp_def, hsamples]
  rfl

end Bitmap

end PageCapture
