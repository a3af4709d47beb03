import PageCapture.Bitmap.Basic

/-!
# Pixels of a bitmap

A bitmap that is sound and that can be addressed is `Readable`. On such a bitmap reaching for a
pixel inside the size never ends with a fault: `Readable.place` and `Readable.pixel` say where a
pixel is and what it holds. A readable bitmap whose sides are signed lengths is `Drawable`: a sample
of it can be checked, too. Both depend on the shape alone (`Readable.of_sameShape`,
`Drawable.of_sameShape`), and `drawable_of_blank?` says that new bitmaps are drawable.

`Holds` says what all the pixels of a bitmap are. Setting a pixel changes that pixel and no other
(`Readable.setPixel`), so a painting leaves every pixel with its value (`Readable.paint`). Neither
touches a byte that belongs to no pixel: they keep the margins (`SameMargins`).
`Drawable.isUniform` says what the check of a sample comes to.
-/

set_option autoImplicit false
set_option relaxedAutoImplicit false

namespace PageCapture.Bitmap

/-! ### Shapes -/

/-- The bitmaps differ at most in the format and in the bytes of their data. -/
structure SameShape (first second : Bitmap) : Prop where
  width : first.width = second.width
  height : first.height = second.height
  stride : first.stride = second.stride
  size : first.data.size = second.data.size

theorem SameShape.refl (b : Bitmap) : b.SameShape b :=
  ⟨rfl, rfl, rfl, rfl⟩

theorem SameShape.trans {first second third : Bitmap} (hfirst : first.SameShape second)
    (hsecond : second.SameShape third) : first.SameShape third where
  width := hfirst.width.trans hsecond.width
  height := hfirst.height.trans hsecond.height
  stride := hfirst.stride.trans hsecond.stride
  size := hfirst.size.trans hsecond.size

/-- A bitmap whose pixels can be read and set without a fault. -/
structure Readable (b : Bitmap) : Prop where
  sound : b.Sound
  addressable : b.data.size < Checked.addressRange

/-- A bitmap that can be drawn into and checked without a fault. -/
structure Drawable (b : Bitmap) : Prop where
  sound : b.Sound
  addressable : b.data.size < Checked.addressRange
  narrow : b.width.toNat < 2147483648
  low : b.height.toNat < 2147483648

theorem Drawable.readable {b : Bitmap} (hb : b.Drawable) : b.Readable :=
  ⟨hb.sound, hb.addressable⟩

theorem Readable.of_sameShape {first second : Bitmap} (hsecond : second.Readable)
    (hshape : first.SameShape second) : first.Readable := by
  obtain ⟨hwidth, hheight, hstride, hsize⟩ := hshape
  obtain ⟨hsound, haddressable⟩ := hsecond
  refine ⟨?_, by rwa [hsize]⟩
  simpa only [Sound, rowLength, hwidth, hheight, hstride, hsize] using hsound

theorem Drawable.of_sameShape {first second : Bitmap} (hsecond : second.Drawable)
    (hshape : first.SameShape second) : first.Drawable := by
  obtain ⟨hsound, haddressable⟩ := hsecond.readable.of_sameShape hshape
  refine ⟨hsound, haddressable, ?_, ?_⟩
  · rw [hshape.width]
    exact hsecond.narrow
  · rw [hshape.height]
    exact hsecond.low

/-- What a new bitmap is like. -/
theorem blank?_eq_some {width height : Int32} {format : PixelFormat} {b : Bitmap}
    (hblank : blank? width height format = some b) :
    1 ≤ width.toInt ∧ 1 ≤ height.toInt ∧
      width.toInt.toNat * pixelSize * height.toInt.toNat < 9223372036854775808 ∧
      b.width.toNat = width.toInt.toNat ∧ b.height.toNat = height.toInt.toNat ∧
      b.stride.toNat = width.toInt.toNat * pixelSize ∧ b.format = format ∧
      b.data.size = width.toInt.toNat * pixelSize * height.toInt.toNat := by
  unfold blank? at hblank
  simp only at hblank
  split at hblank
  · cases hblank
  · rename_i hrefused
    rw [not_or, not_or, Int32.not_lt, Int32.not_lt, Nat.not_le] at hrefused
    obtain ⟨hwidth, hheight, hsize⟩ := hrefused
    have hone : (1 : Int32).toInt = 1 := rfl
    rw [Int32.le_iff_toInt_le, hone] at hwidth hheight
    have hbelow := Int32.toInt_lt width
    have hbeneath := Int32.toInt_lt height
    cases hblank
    refine ⟨hwidth, hheight, hsize, ?_, ?_, ?_, rfl, Array.size_replicate⟩
    · exact UInt32.toNat_ofNat_of_lt' (by simp only [UInt32.size]; omega)
    · exact UInt32.toNat_ofNat_of_lt' (by simp only [UInt32.size]; omega)
    · exact UInt64.toNat_ofNat_of_lt' (by simp only [UInt64.size, pixelSize]; omega)

/-- There is a new bitmap of every size of at least one pixel that can be addressed. -/
theorem exists_blank? {width height : Int32} (format : PixelFormat) (hwidth : 1 ≤ width.toInt)
    (hheight : 1 ≤ height.toInt)
    (hsize : width.toInt.toNat * pixelSize * height.toInt.toNat < 9223372036854775808) :
    ∃ b, blank? width height format = some b := by
  have hone : (1 : Int32).toInt = 1 := rfl
  unfold blank?
  simp only
  rw [if_neg]
  · exact ⟨_, rfl⟩
  · rw [not_or, not_or, Int32.not_lt, Int32.not_lt, Nat.not_le, Int32.le_iff_toInt_le,
      Int32.le_iff_toInt_le, hone]
    exact ⟨hwidth, hheight, hsize⟩

theorem drawable_of_blank? {width height : Int32} {format : PixelFormat} {b : Bitmap}
    (hblank : blank? width height format = some b) : b.Drawable := by
  obtain ⟨hwide, hhigh, hlimit, hwidth, hheight, hstride, -, hsize⟩ := blank?_eq_some hblank
  have hbelow := Int32.toInt_lt width
  have hbeneath := Int32.toInt_lt height
  refine ⟨⟨?_, ?_, ?_, ?_⟩, ?_, by omega, by omega⟩
  · intro hzero
    rw [hzero, UInt32.toNat_zero] at hwidth
    omega
  · intro hzero
    rw [hzero, UInt32.toNat_zero] at hheight
    omega
  · refine Nat.le_of_eq ?_
    rw [rowLength, hwidth, hstride]
  · rw [rowLength, hsize, hstride, hwidth, hheight, ← Nat.mul_succ]
    exact Nat.le_of_eq (congrArg _ (by omega))
  · rw [hsize]
    exact Nat.lt_trans hlimit (by decide)

theorem Sound.width_pos {b : Bitmap} (hb : b.Sound) : 0 < b.width.toNat :=
  UInt32.lt_iff_toNat_lt.mp (UInt32.pos_iff_ne_zero.mpr hb.1)

theorem Sound.height_pos {b : Bitmap} (hb : b.Sound) : 0 < b.height.toNat :=
  UInt32.lt_iff_toNat_lt.mp (UInt32.pos_iff_ne_zero.mpr hb.2.1)

/-- The rows of a sound bitmap take bytes. -/
theorem Sound.stride_pos {b : Bitmap} (hb : b.Sound) : 0 < b.stride.toNat := by
  have hwide := hb.width_pos
  obtain ⟨-, -, hrow, -⟩ := hb
  simp only [rowLength, pixelSize] at hrow
  omega

theorem Readable.width_pos {b : Bitmap} (hb : b.Readable) : 0 < b.width.toNat :=
  hb.sound.width_pos

theorem Readable.height_pos {b : Bitmap} (hb : b.Readable) : 0 < b.height.toNat :=
  hb.sound.height_pos

/-! ### Places -/

/-- The number of bytes in front of a pixel. -/
def offset (b : Bitmap) (x y : Nat) : Nat := y * b.stride.toNat + x * pixelSize

/-- A row begins no later than the last one does. -/
theorem rowStart_le {b : Bitmap} {y : Nat} (hy : y < b.height.toNat) :
    y * b.stride.toNat ≤ b.stride.toNat * (b.height.toNat - 1) := by
  rw [Nat.mul_comm]
  exact Nat.mul_le_mul_left _ (by omega)

section Readable

variable {b : Bitmap} (hb : b.Readable) {x y : Nat} (hx : x < b.width.toNat)
  (hy : y < b.height.toNat)

include hb hx hy

/-- A pixel inside the size has its bytes. -/
theorem Readable.offset_add_le : b.offset x y + 4 ≤ b.data.size := by
  obtain ⟨-, -, hrow, hrows⟩ := hb.sound
  have habove := rowStart_le hy
  simp only [rowLength, pixelSize, offset] at *
  omega

theorem Readable.place : b.place x y = .ok (b.offset x y) := by
  have hinside := hb.offset_add_le hx hy
  have hrange := hb.addressable
  have hposition : ∀ operation n, n ≤ b.data.size → Checked.position operation n = .ok n :=
    fun operation n hn ↦ Checked.position_eq_ok_iff.mpr ⟨rfl, by omega⟩
  simp only [offset, pixelSize] at hinside
  unfold Bitmap.place
  rw [hposition _ _ (by omega), pixelSize, hposition _ (x * 4) (by omega)]
  change (Checked.position .add (y * b.stride.toNat + x * 4)).bind _ = _
  rw [hposition _ _ (by omega)]
  change (Checked.position .add (y * b.stride.toNat + x * 4 + 4)).bind _ = _
  rw [hposition _ _ (by omega)]
  rfl

/-- A pixel inside the size has the value of its four bytes. -/
theorem Readable.pixel :
    b.pixel x y = .ok (wordAt b.data (b.offset x y) (hb.offset_add_le hx hy)) := by
  rw [Bitmap.pixel, hb.place hx hy]
  simp only [hb.offset_add_le hx hy, dite_true]

omit hb hy in
/-- Pixels behind another one in reading order lie behind it. -/
theorem offset_add_le_offset (hrow : b.rowLength ≤ b.stride.toNat) {x' y' : Nat}
    (hbehind : y < y' ∨ y = y' ∧ x < x') : b.offset x y + 4 ≤ b.offset x' y' := by
  simp only [rowLength, pixelSize] at hrow
  simp only [offset, pixelSize]
  rcases hbehind with hbelow | ⟨rfl, hright⟩
  · have hnext := Nat.mul_le_mul_right b.stride.toNat (Nat.succ_le_of_lt hbelow)
    rw [Nat.succ_mul] at hnext
    omega
  · omega

end Readable

/-! ### Words -/

@[simp]
theorem size_writeWord {data : Array UInt8} {start : Nat} (inside : start + 4 ≤ data.size)
    (value : UInt32) : (writeWord data start inside value).size = data.size := by
  simp [writeWord]

theorem wordAt_writeWord {data : Array UInt8} {start : Nat} (inside : start + 4 ≤ data.size)
    (value : UInt32) :
    wordAt (writeWord data start inside value) start (by simpa using inside) = value := by
  simp only [wordAt, writeWord, Array.getElem_set]
  simp [Bytes.ofLittle32_byteOf]

/-- The bytes in front of a word and behind it stay as they are when it is written. -/
theorem getElem?_writeWord_of_outside {data : Array UInt8} {start n : Nat}
    (inside : start + 4 ≤ data.size) (value : UInt32) (hout : n < start ∨ start + 4 ≤ n) :
    (writeWord data start inside value)[n]? = data[n]? := by
  simp only [writeWord, Array.getElem?_set]
  rw [if_neg (by omega), if_neg (by omega), if_neg (by omega), if_neg (by omega)]

theorem wordAt_writeWord_of_apart {data : Array UInt8} {start place : Nat}
    (inside : start + 4 ≤ data.size) (hplace : place + 4 ≤ data.size) (value : UInt32)
    (hapart : start + 4 ≤ place ∨ place + 4 ≤ start) :
    wordAt (writeWord data start inside value) place (by simpa using hplace) =
      wordAt data place hplace := by
  have hbyte : ∀ n (hn : n < (writeWord data start inside value).size)
      (hn' : n < data.size), (n < start ∨ start + 4 ≤ n) →
      (writeWord data start inside value)[n] = data[n] := by
    intro n hn hn' hout
    rw [← Option.some.injEq, ← Array.getElem?_eq_getElem hn, ← Array.getElem?_eq_getElem hn']
    exact getElem?_writeWord_of_outside inside value hout
  unfold wordAt
  rw [hbyte place _ (by omega) (by omega), hbyte (place + 1) _ (by omega) (by omega),
    hbyte (place + 2) _ (by omega) (by omega), hbyte (place + 3) _ (by omega) (by omega)]

/-! ### Margins -/

/-- A pixel of the bitmap has the byte of a number. The other bytes are the padding of the rows and
what follows the last pixel. -/
def Covers (b : Bitmap) (n : Nat) : Prop :=
  ∃ x y, x < b.width.toNat ∧ y < b.height.toNat ∧ b.offset x y ≤ n ∧ n < b.offset x y + 4

theorem SameShape.covers_iff {first second : Bitmap} (hshape : first.SameShape second) {n : Nat} :
    first.Covers n ↔ second.Covers n := by
  simp only [Covers, offset, hshape.width, hshape.height, hshape.stride]

/-- The bitmaps differ at most in the bytes of their pixels. -/
structure SameMargins (first second : Bitmap) : Prop extends first.SameShape second where
  format : first.format = second.format
  margins : ∀ n, ¬ second.Covers n → first.data[n]? = second.data[n]?

theorem SameMargins.refl (b : Bitmap) : b.SameMargins b where
  toSameShape := .refl b
  format := rfl
  margins _ _ := rfl

theorem SameMargins.trans {first second third : Bitmap} (hfirst : first.SameMargins second)
    (hsecond : second.SameMargins third) : first.SameMargins third where
  toSameShape := hfirst.toSameShape.trans hsecond.toSameShape
  format := hfirst.format.trans hsecond.format
  margins n hn :=
    (hfirst.margins n (mt hsecond.toSameShape.covers_iff.mp hn)).trans (hsecond.margins n hn)

/-! ### Values of all pixels -/

/-- Every pixel has the value for its column and row. -/
def Holds (b : Bitmap) (value : Nat → Nat → UInt32) : Prop :=
  ∀ x y, x < b.width.toNat → y < b.height.toNat → b.pixel x y = .ok (value x y)

/-- The pixels of a readable bitmap have some values. -/
theorem Readable.exists_holds {b : Bitmap} (hb : b.Readable) : ∃ value, b.Holds value := by
  refine ⟨fun x y ↦ if hinside : b.offset x y + 4 ≤ b.data.size then
    wordAt b.data (b.offset x y) hinside else 0, fun x y hx hy ↦ ?_⟩
  rw [hb.pixel hx hy]
  simp only [hb.offset_add_le hx hy, dite_true]

/-- Giving a pixel inside the size a value gives it the value, keeps the margins and changes no
other pixel. -/
theorem Readable.setPixel {b : Bitmap} (hb : b.Readable) {x y : Nat} (hx : x < b.width.toNat)
    (hy : y < b.height.toNat) (value : UInt32) :
    ∃ written, (Bitmap.setPixel x y value).results b = (.ok (), written) ∧
      written.SameMargins b ∧ written.pixel x y = .ok value ∧
      ∀ x' y', x' < b.width.toNat → y' < b.height.toNat → (x', y') ≠ (x, y) →
        written.pixel x' y' = b.pixel x' y' := by
  have hinside := hb.offset_add_le hx hy
  refine ⟨{ b with data := writeWord b.data (b.offset x y) hinside value }, ?_,
    ⟨⟨rfl, rfl, rfl, size_writeWord hinside value⟩, rfl, fun n hn ↦ ?_⟩, ?_,
    fun x' y' hx' hy' hother ↦ ?_⟩
  · simp only [Bitmap.setPixel, Action.results, Action.ofResults, hb.place hx hy, hinside,
      dite_true]
  · refine getElem?_writeWord_of_outside hinside value ?_
    exact Decidable.byContradiction fun hcovered ↦ hn ⟨x, y, hx, hy, by omega, by omega⟩
  all_goals
    have hwritten : Readable { b with data := writeWord b.data (b.offset x y) hinside value } :=
      hb.of_sameShape ⟨rfl, rfl, rfl, size_writeWord hinside value⟩
  · rw [hwritten.pixel hx hy]
    exact congrArg _ (wordAt_writeWord hinside value)
  · have hrow := hb.sound.2.2.1
    rw [hwritten.pixel hx' hy', hb.pixel hx' hy']
    refine congrArg _ (wordAt_writeWord_of_apart hinside (hb.offset_add_le hx' hy') value ?_)
    rcases Nat.lt_trichotomy y y' with hbelow | rfl | habove
    · exact .inl (offset_add_le_offset hx hrow (.inl hbelow))
    · rcases Nat.lt_trichotomy x x' with hright | rfl | hleft
      · exact .inl (offset_add_le_offset hx hrow (.inr ⟨rfl, hright⟩))
      · exact absurd rfl hother
      · exact .inr (offset_add_le_offset hx' hrow (.inr ⟨rfl, hleft⟩))
    · exact .inr (offset_add_le_offset hx' hrow (.inl habove))

/-- Giving a pixel a value, in terms of the values of all pixels. -/
theorem Readable.holds_setPixel {b : Bitmap} (hb : b.Readable) {value : Nat → Nat → UInt32}
    (hholds : b.Holds value) {x y : Nat} (hx : x < b.width.toNat) (hy : y < b.height.toNat)
    (given : UInt32) :
    ∃ written, (Bitmap.setPixel x y given).results b = (.ok (), written) ∧
      written.SameMargins b ∧
      written.Holds fun column row ↦ if column = x ∧ row = y then given else value column row := by
  obtain ⟨written, hset, hkept, hsame, hother⟩ := hb.setPixel hx hy given
  refine ⟨written, hset, hkept, fun column row hcolumn hrow ↦ ?_⟩
  rw [hkept.width] at hcolumn
  rw [hkept.height] at hrow
  change _ = Except.ok (if column = x ∧ row = y then given else value column row)
  by_cases hhere : column = x ∧ row = y
  · rw [if_pos hhere, hhere.1, hhere.2, hsame]
  · rw [if_neg hhere, hother column row hcolumn hrow fun hpair ↦ hhere (Prod.mk.injEq .. ▸ hpair)]
    exact hholds column row hcolumn hrow

/-- The place of a number in reading order, in rows of a width. -/
theorem number_eq_iff {width n x y : Nat} (hx : x < width) :
    y * width + x = n ↔ x = n % width ∧ y = n / width := by
  have hpositive : 0 < width := by omega
  constructor
  · rintro rfl
    rw [Nat.mul_comm, Nat.mul_add_mod, Nat.mod_eq_of_lt hx, Nat.mul_add_div hpositive,
      Nat.div_eq_of_lt hx]
    exact ⟨rfl, (Nat.add_zero y).symm⟩
  · rintro ⟨rfl, rfl⟩
    exact Nat.div_add_mod' n width

/-- Painting from a number on gives the pixels from there on their values and leaves those in front
and the margins as they are. -/
theorem Readable.paintFrom (value : Nat → Nat → UInt32) (count next : Nat) {b : Bitmap}
    (hb : b.Readable) (hcount : next + count = b.width.toNat * b.height.toNat) :
    ∃ painted, paintFrom value count next b = (.ok (), painted) ∧ painted.SameMargins b ∧
      ∀ x y, x < b.width.toNat → y < b.height.toNat → painted.pixel x y =
        if next ≤ y * b.width.toNat + x then .ok (value x y) else b.pixel x y := by
  induction count generalizing next b with
  | zero =>
    refine ⟨b, rfl, .refl b, fun x y hx hy ↦ ?_⟩
    have hlast := Nat.mul_le_mul_right b.width.toNat (Nat.succ_le_of_lt hy)
    rw [Nat.succ_mul, Nat.mul_comm b.height.toNat] at hlast
    rw [if_neg (by omega)]
  | succ count ih =>
    have hnext : next < b.width.toNat * b.height.toNat := by omega
    have hpositive : 0 < b.width.toNat := Nat.pos_of_lt_mul_right hnext
    obtain ⟨written, hset, hkept, hsame, hother⟩ := hb.setPixel
      (Nat.mod_lt next hpositive) (Nat.div_lt_of_lt_mul hnext)
      (value (next % b.width.toNat) (next / b.width.toNat))
    have hwidth := congrArg UInt32.toNat hkept.width
    have hheight := congrArg UInt32.toNat hkept.height
    obtain ⟨painted, hpaint, hpainted, hvalues⟩ :=
      ih (next + 1) (hb.of_sameShape hkept.toSameShape) (by rw [hwidth, hheight]; omega)
    rw [hwidth, hheight] at hvalues
    refine ⟨painted, ?_, hpainted.trans hkept, fun x y hx hy ↦ ?_⟩
    · simp only [Bitmap.paintFrom, hset, hpaint]
    · rw [hvalues x y hx hy]
      by_cases hlater : next + 1 ≤ y * b.width.toNat + x
      · rw [if_pos hlater, if_pos (by omega)]
      · rw [if_neg hlater]
        by_cases hnow : y * b.width.toNat + x = next
        · obtain ⟨rfl, rfl⟩ := (number_eq_iff hx).mp hnow
          rw [if_pos (by omega), hsame]
        · rw [if_neg (by omega), hother x y hx hy]
          intro hpair
          obtain ⟨rfl, rfl⟩ := Prod.mk.injEq .. ▸ hpair
          exact hnow (Nat.div_add_mod' next _)

/-- Painting a readable bitmap gives all its pixels their values and keeps the margins. -/
theorem Readable.holds_paint (value : Nat → Nat → UInt32) {b : Bitmap} (hb : b.Readable) :
    ∃ painted, (Bitmap.paint value).results b = (.ok (), painted) ∧ painted.SameMargins b ∧
      painted.Holds value := by
  obtain ⟨painted, hpaint, hkept, hvalues⟩ := hb.paintFrom value b.pixelCount 0 (Nat.zero_add _)
  refine ⟨painted, hpaint, hkept, fun x y hx hy ↦ ?_⟩
  rw [hkept.width] at hx
  rw [hkept.height] at hy
  rw [hvalues x y hx hy, if_pos (Nat.zero_le _)]

/-- What painting leaves where the margins do not matter. -/
theorem Readable.paint (value : Nat → Nat → UInt32) {b : Bitmap} (hb : b.Readable) :
    ∃ painted, (Bitmap.paint value).results b = (.ok (), painted) ∧ painted.SameShape b ∧
      painted.format = b.format ∧ painted.Holds value := by
  obtain ⟨painted, hpaint, hkept, hholds⟩ := hb.holds_paint value
  exact ⟨painted, hpaint, hkept.toSameShape, hkept.format, hholds⟩

/-! ### The check of a sample -/

/-- How much of a side of a bitmap a sample of a length takes. -/
def sampled (length : Int32) (side : UInt32) : Nat := min length.toInt.toNat side.toNat

/-- Cutting a sample to a side that is a signed length has a result. -/
theorem clamp_signed {side : UInt32} (hside : side.toNat < 2147483648) (length : Int32) :
    ∃ cut, clamp length 0 (signed side) = .ok cut ∧ cut.toInt.toNat = sampled length side := by
  have hzero : (0 : Int32).toInt = 0 := rfl
  have hsigned : (signed side).toInt = side.toNat := by
    refine BitVec.toInt_eq_toNat_of_lt ?_
    change 2 * side.toNat < 2 ^ 32
    omega
  unfold clamp sampled
  rw [if_neg (by rw [Int32.lt_iff_toInt_lt]; omega)]
  refine ⟨_, rfl, ?_⟩
  split
  · rename_i hbelow
    rw [Int32.lt_iff_toInt_lt] at hbelow
    omega
  · split
    · rename_i habove
      rw [Int32.lt_iff_toInt_lt] at habove
      omega
    · rename_i hinside
      rw [Int32.lt_iff_toInt_lt] at hinside
      omega

/-- Looking for another value from a number on says whether there is none. -/
theorem uniformFrom_eq {b : Bitmap} (value : Nat → Nat → UInt32) (known : UInt32)
    (width height count next : Nat)
    (hvalues : ∀ x y, x < width → y < height → b.pixel x y = .ok (value x y))
    (hcount : next + count = width * height) :
    ∃ uniform, b.uniformFrom known width count next = .ok uniform ∧
      (uniform = true ↔ ∀ x y, x < width → y < height → next ≤ y * width + x →
        value x y = known) := by
  induction count generalizing next with
  | zero =>
    refine ⟨true, rfl, iff_of_true rfl fun x y hx hy hnext ↦ ?_⟩
    have hlast := Nat.mul_le_mul_right width (Nat.succ_le_of_lt hy)
    rw [Nat.succ_mul, Nat.mul_comm height] at hlast
    omega
  | succ count ih =>
    have hnext : next < width * height := by omega
    have hpositive : 0 < width := Nat.pos_of_lt_mul_right hnext
    have hcolumn := Nat.mod_lt next hpositive
    have hrow := Nat.div_lt_of_lt_mul hnext
    rw [uniformFrom, hvalues _ _ hcolumn hrow]
    simp only
    by_cases hfound : value (next % width) (next / width) = known
    · obtain ⟨uniform, hrest, hiff⟩ := ih (next + 1) (by omega)
      rw [if_pos hfound]
      refine ⟨uniform, hrest, hiff.trans ⟨fun hall x y hx hy hle ↦ ?_, fun hall x y hx hy hle ↦
        hall x y hx hy (by omega)⟩⟩
      by_cases hnow : y * width + x = next
      · obtain ⟨rfl, rfl⟩ := (number_eq_iff hx).mp hnow
        exact hfound
      · exact hall x y hx hy (by omega)
    · rw [if_neg hfound]
      refine ⟨false, rfl, iff_of_false Bool.false_ne_true fun hall ↦ hfound ?_⟩
      exact hall _ _ hcolumn hrow (Nat.le_of_eq (Nat.div_add_mod' next width).symm)

/-- The check of a sample on a drawable bitmap has a result: it says whether all the pixels of the
sample have the value of the first one. -/
theorem Drawable.isUniform {b : Bitmap} (hb : b.Drawable) {value : Nat → Nat → UInt32}
    (hholds : b.Holds value) (sample : Size) :
    ∃ uniform, b.isUniform sample = .ok uniform ∧
      (uniform = true ↔ ∀ x y, x < sampled sample.width b.width →
        y < sampled sample.height b.height → value x y = value 0 0) := by
  obtain ⟨width, hwidth, hcolumns⟩ := clamp_signed hb.narrow sample.width
  obtain ⟨height, hheight, hrows⟩ := clamp_signed hb.low sample.height
  have hfirst := hholds 0 0 hb.readable.width_pos hb.readable.height_pos
  obtain ⟨uniform, huniform, hiff⟩ := uniformFrom_eq value (value 0 0)
    (sampled sample.width b.width) (sampled sample.height b.height) _ 0
    (fun x y hx hy ↦ hholds x y (Nat.lt_of_lt_of_le hx (Nat.min_le_right ..))
      (Nat.lt_of_lt_of_le hy (Nat.min_le_right ..))) (Nat.zero_add _)
  refine ⟨uniform, ?_, hiff.trans ?_⟩
  · unfold Bitmap.isUniform
    rw [hwidth, hheight, hfirst, ← huniform, ← hcolumns, ← hrows]
    rfl
  · simp

end PageCapture.Bitmap
