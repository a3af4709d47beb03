import PageCapture.Bytes
import PageCapture.Proofs.Bitmap.Picture

/-!
# Bitmaps as stores of pixels

A bitmap is written pixel by pixel or all at once, and read pixel by pixel or row by row. All of
that goes to one array of bytes, in which pixels lie at distances that depend on the stride and
other bytes lie between them. `writeAll_stores` is the law of the store: on a sound bitmap no write
inside it ends with a fault, and after any number of them a pixel has the value that it was last
given (`lastWritten?`), the margins are untouched, and the rows are made of the bytes of these
values.

One write is followed in `Readable.perform`, and a run of them by induction in `Readable.writeAll`.
`Sound.covers_iff` says which bytes are margins. `rows_eq_mapM_chunks` says of any bitmap, sound or
not, that its rows are the fronts of the pieces into which the stride cuts the data.
-/

set_option autoImplicit false
set_option relaxedAutoImplicit false

namespace PageCapture.Bitmap

/-! ### Writes -/

/-- A change of the pixels of a bitmap. -/
inductive Write where
  /-- Gives one pixel a value. -/
  | pixel (x y : Nat) (value : UInt32)
  /-- Gives every pixel one value. -/
  | all (value : UInt32)
  deriving DecidableEq, Repr

namespace Write

/-- A write of one pixel is inside a bitmap that has the pixel, a write of all is inside any. -/
def Inside (b : Bitmap) : Write → Prop
  | pixel x y _ => x < b.width.toNat ∧ y < b.height.toNat
  | all _ => True

instance (b : Bitmap) : DecidablePred (Inside b)
  | pixel x y _ => inferInstanceAs (Decidable (x < b.width.toNat ∧ y < b.height.toNat))
  | all _ => inferInstanceAs (Decidable True)

/-- Carries out a write. -/
def perform : Write → Action Bitmap Unit
  | pixel x y value => setPixel x y value
  | all value => fill value

/-- The value that a pixel gets from a write, if it gets one. -/
def value? (x y : Nat) : Write → Option UInt32
  | pixel column row value => if x = column ∧ y = row then some value else none
  | all value => some value

theorem inside_of_sameShape {first second : Bitmap} (hshape : first.SameShape second)
    {write : Write} (hinside : write.Inside second) : write.Inside first := by
  cases write with
  | pixel x y value => simpa only [Inside, hshape.width, hshape.height] using hinside
  | all value => trivial

end Write

/-- Carries out writes one after the other, up to the first that ends with a fault. -/
def writeAll : List Write → Action Bitmap Unit
  | [] => return ()
  | write :: writes => do
    write.perform
    writeAll writes

/-- The value that a pixel gets from the last of some writes that gives it one. -/
def lastWritten? (writes : List Write) (x y : Nat) : Option UInt32 :=
  (writes.filterMap (Write.value? x y)).getLast?

/-- The first of some writes counts for the pixels to which the others give no value. -/
theorem getD_lastWritten?_cons (write : Write) (writes : List Write) (x y : Nat) (known : UInt32) :
    (lastWritten? (write :: writes) x y).getD known =
      (lastWritten? writes x y).getD ((write.value? x y).getD known) := by
  unfold lastWritten?
  rw [List.filterMap_cons]
  cases write.value? x y with
  | none => rfl
  | some value => rw [List.getLast?_cons]; rfl

variable {b : Bitmap} {value : Nat → Nat → UInt32}

/-- A write inside a readable bitmap gives the pixels that it is for their value and changes nothing
else. -/
theorem Readable.perform (hb : b.Readable) (hholds : b.Holds value) {write : Write}
    (hinside : write.Inside b) :
    ∃ after, write.perform.results b = (.ok (), after) ∧ after.SameMargins b ∧
      after.Holds fun x y ↦ (write.value? x y).getD (value x y) := by
  cases write with
  | pixel column row given =>
    obtain ⟨after, hset, hkept, hvalues⟩ := hb.holds_setPixel hholds hinside.1 hinside.2 given
    refine ⟨after, hset, hkept, fun x y hx hy ↦ ?_⟩
    rw [hvalues x y hx hy]
    simp only [Write.value?]
    split <;> rfl
  | all given =>
    obtain ⟨after, hfill, hkept, hvalues⟩ := hb.holds_paint fun _ _ ↦ given
    exact ⟨after, hfill, hkept, hvalues⟩

/-- After writes inside a readable bitmap every pixel has the value that it was last given, or the
one that it had, and everything else is as it was. -/
theorem Readable.writeAll (hb : b.Readable) (hholds : b.Holds value) {writes : List Write}
    (hinside : ∀ write ∈ writes, write.Inside b) :
    ∃ after, (Bitmap.writeAll writes).results b = (.ok (), after) ∧ after.SameMargins b ∧
      after.Holds fun x y ↦ (lastWritten? writes x y).getD (value x y) := by
  -- Behind the first write the bitmap is another one and its pixels hold other values.
  induction writes generalizing b value with
  | nil => exact ⟨b, rfl, .refl b, hholds⟩
  | cons write writes ih =>
    rw [List.forall_mem_cons] at hinside
    obtain ⟨middle, hwrite, hmiddle, hvalues⟩ := hb.perform hholds hinside.1
    obtain ⟨after, hwrites, hafter, hlast⟩ := ih (hb.of_sameShape hmiddle.toSameShape) hvalues
      fun other hother ↦ Write.inside_of_sameShape hmiddle.toSameShape (hinside.2 other hother)
    refine ⟨after, ?_, hafter.trans hmiddle, ?_⟩
    · rw [Bitmap.writeAll, Action.bind_results, hwrite]
      exact hwrites
    · simpa only [getD_lastWritten?_cons] using hlast

/-! ### Rows -/

/-- The rows of a readable bitmap are as many as it is high, and in each of them are the bytes of
the pixels one behind the other. -/
theorem Readable.rows_hold (hb : b.Readable) (hholds : b.Holds value) :
    ∃ rows, b.rows = .ok rows ∧ rows.length = b.height.toNat ∧
      ∀ y row, rows[y]? = some row → row.length = b.width.toNat * pixelSize ∧
        ∀ x < b.width.toNat, (row.drop (x * pixelSize)).take pixelSize = wordBytes (value x y) := by
  have hlength : ∀ value, (wordBytes value).length = pixelSize := fun _ ↦ rfl
  refine ⟨_, hb.rows hholds, by rw [List.length_map, List.length_range], fun y row hrow ↦ ?_⟩
  rw [List.getElem?_map] at hrow
  obtain ⟨number, hnumber, rfl⟩ := Option.map_eq_some_iff.mp hrow
  obtain ⟨-, rfl⟩ := List.getElem?_eq_some_iff.mp hnumber
  rw [List.getElem_range, List.flatMap_map]
  exact ⟨length_flatMap_range (fun _ ↦ hlength _) _,
    fun x hx ↦ take_drop_flatMap_range (fun _ ↦ hlength _) hx⟩

/-- The bytes of the pixels in a piece of the data that begins with a row. -/
def pieceFront (b : Bitmap) (piece : List UInt8) : Except Fault (List UInt8) :=
  if piece.length < b.rowLength then .error .outOfBounds else .ok (piece.take b.rowLength)

/-- The rows are the fronts of the pieces of a stride each that the data is cut into, from the first
piece on, whether the last one is short or there are more pieces than rows. -/
theorem rows_eq_mapM_chunks (hstride : b.stride ≠ 0) :
    b.rows = ((chunks b.stride.toNat b.data.toList).take b.height.toNat).mapM b.pieceFront := by
  have hpositive : b.stride.toNat ≠ 0 := fun hzero ↦ hstride (UInt64.toNat_inj.mp hzero)
  rw [rows, if_neg hstride, chunks_eq_map_range hpositive, ← List.map_take, List.take_range,
    List.mapM_map, Array.length_toList, ← rowCount]
  refine mapM_congr_left fun y hy ↦ ?_
  -- Rows are counted as far as the data goes, so that even a row of no bytes has begun inside it.
  have hbegun : y * b.stride.toNat < b.data.size := by
    have hcount := Nat.lt_of_lt_of_le (List.mem_range.mp hy) (Nat.min_le_right ..)
    have hrows :=
      (Nat.le_div_iff_mul_le (Nat.pos_of_ne_zero hpositive)).mp (Nat.succ_le_of_lt hcount)
    rw [Nat.succ_mul] at hrows
    omega
  have hlength : ((b.data.toList.drop (y * b.stride.toNat)).take b.stride.toNat).length =
      min b.stride.toNat (b.data.size - y * b.stride.toNat) := by
    rw [List.length_take, List.length_drop, Array.length_toList]
  simp only [row, Function.comp_apply, pieceFront, hlength]
  by_cases hshort : b.data.size < y * b.stride.toNat + b.rowLength ∨ b.stride.toNat < b.rowLength
  · rw [if_pos hshort, if_pos (by omega)]
  · rw [if_neg hshort, if_neg (by omega), Array.toList_extract, List.extract_eq_take_drop,
      Nat.add_sub_cancel_left, List.take_take, Nat.min_eq_left (by omega)]

/-! ### Margins -/

/-- The bytes of the pixels are those at the front of the rows, as far as there are rows. -/
theorem Sound.covers_iff (hb : b.Sound) {n : Nat} :
    b.Covers n ↔ n / b.stride.toNat < b.height.toNat ∧ n % b.stride.toNat < b.rowLength := by
  obtain ⟨-, -, hrow, -⟩ := hb
  simp only [rowLength, pixelSize] at hrow
  simp only [Covers, offset, rowLength, pixelSize]
  constructor
  · rintro ⟨x, y, hx, hy, hbegun, hended⟩
    obtain ⟨behind, hbehind⟩ := Nat.exists_eq_add_of_le hbegun
    rw [Nat.add_assoc] at hbehind
    have hinside : x * 4 + behind < b.stride.toNat := by omega
    obtain ⟨hcolumn, hnumber⟩ := (number_eq_iff hinside).mp hbehind.symm
    omega
  · rintro ⟨hy, hx⟩
    refine ⟨n % b.stride.toNat / 4, n / b.stride.toNat, by omega, hy, ?_⟩
    have hplace := Nat.div_add_mod' n b.stride.toNat
    omega

/-! ### The store -/

/-- The store of pixels. Assumes: the bitmap is sound and its data can be addressed. Every pixel has
a value. Writes inside the bitmap, in any number and order, end without a fault: the size, the
stride, the format and the length of the data stay, and so does every byte that is not one of a
pixel, that is, the padding behind the pixels of each row and all that follows the last row; a pixel
has the value that it was last given and, if it was given none, the one that it had. Reading by rows
ends without a fault, too, and sees the same: there are as many rows as the bitmap is high, which
are the fronts of the pieces that the stride cuts the data into, each as long as its pixels take,
and the four bytes of a row for a column are those of the pixel's value, the least significant
first. -/
theorem writeAll_stores (hsound : b.Sound)
    (haddressable : b.data.size < Checked.addressRange) :
    (∀ n, b.Covers n ↔ n / b.stride.toNat < b.height.toNat ∧ n % b.stride.toNat < b.rowLength) ∧
    ∃ value, b.Holds value ∧
      ∀ writes : List Write, (∀ write ∈ writes, write.Inside b) →
        ∃ after rows, (writeAll writes).results b = (.ok (), after) ∧ after.SameMargins b ∧
          (after.Holds fun x y ↦ (lastWritten? writes x y).getD (value x y)) ∧
          after.rows = .ok rows ∧ rows.length = b.height.toNat ∧
          after.rows =
            ((chunks b.stride.toNat after.data.toList).take b.height.toNat).mapM after.pieceFront ∧
          ∀ y row, rows[y]? = some row → row.length = b.width.toNat * pixelSize ∧
            ∀ x < b.width.toNat, (row.drop (x * pixelSize)).take pixelSize =
              wordBytes ((lastWritten? writes x y).getD (value x y)) := by
  have hb : b.Readable := ⟨hsound, haddressable⟩
  obtain ⟨value, hholds⟩ := hb.exists_holds
  refine ⟨fun n ↦ hsound.covers_iff, value, hholds, fun writes hinside ↦ ?_⟩
  obtain ⟨after, hwrites, hkept, hlast⟩ := hb.writeAll hholds hinside
  have hafter : after.Readable := hb.of_sameShape hkept.toSameShape
  obtain ⟨rows, hrows, hcount, hbytes⟩ := hafter.rows_hold hlast
  have hpieces := rows_eq_mapM_chunks hafter.sound.stride_ne_zero
  rw [hkept.stride, hkept.height] at hpieces
  rw [hkept.height] at hcount
  rw [hkept.width] at hbytes
  exact ⟨after, rows, hwrites, hkept, hlast, hrows, hcount, hpieces, hbytes⟩

/-- Two pixels in each of two rows of nine bytes, and behind the rows more bytes than a row has. -/
def looseSquare : Bitmap where
  width := 2
  height := 2
  stride := 9
  format := .bgrx
  data := #[1, 2, 3, 4, 5, 6, 7, 8, 9, 10, 11, 12, 13, 14, 15, 16, 17, 18, 19, 20, 21, 22, 23, 24,
    25, 26, 27, 28, 29, 30]

/-- A pixel is set, then all of them, then the one beside it. The first has the common value, the
byte behind the first row and the last byte of all are what they were, and there are two rows,
though the data is cut into four pieces. -/
theorem writeAll_stores_looseSquare :
    looseSquare.Sound ∧ looseSquare.data.size < Checked.addressRange ∧
    (∀ write ∈ [Write.pixel 0 0 7, .all 0x11223344, .pixel 1 0 5], write.Inside looseSquare) ∧
    ∃ after rows,
      (writeAll [.pixel 0 0 7, .all 0x11223344, .pixel 1 0 5]).results looseSquare =
        (.ok (), after) ∧
      after.pixel 0 0 = .ok 0x11223344 ∧ after.pixel 1 0 = .ok 5 ∧
      after.data[8]? = some 9 ∧ after.data[29]? = some 30 ∧
      after.rows = .ok rows ∧ rows.length = 2 ∧
      ∀ row, rows[0]? = some row → (row.drop 4).take 4 = [5, 0, 0, 0] := by
  have hsound : looseSquare.Sound := by
    unfold Sound
    decide
  have hrange : looseSquare.data.size < Checked.addressRange := by decide
  have hinside : ∀ write ∈ [Write.pixel 0 0 7, .all 0x11223344, .pixel 1 0 5],
      write.Inside looseSquare := by decide
  obtain ⟨hcovers, value, -, hstores⟩ := writeAll_stores hsound hrange
  obtain ⟨after, rows, hwrites, hkept, hlast, hrows, hcount, -, hbytes⟩ := hstores _ hinside
  have hwidth : after.width = 2 := hkept.width
  have hheight : after.height = 2 := hkept.height
  refine ⟨hsound, hrange, hinside, after, rows, hwrites, ?_, ?_, ?_, ?_, hrows, hcount,
    fun row hrow ↦ ?_⟩
  · exact hlast 0 0 (by rw [hwidth]; decide) (by rw [hheight]; decide)
  · exact hlast 1 0 (by rw [hwidth]; decide) (by rw [hheight]; decide)
  · exact hkept.margins 8 (mt (hcovers 8).mp (by decide))
  · exact hkept.margins 29 (mt (hcovers 29).mp (by decide))
  · have hfive : wordBytes 5 = [5, 0, 0, 0] := by decide
    rw [← hfive]
    exact (hbytes 0 row hrow).2 1 (by decide)

end PageCapture.Bitmap
