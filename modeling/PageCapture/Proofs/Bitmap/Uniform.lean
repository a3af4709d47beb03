import PageCapture.Proofs.Bitmap.Pixels

/-!
# The check of a sample is exact

Whether a picture is blank is decided by a scan that stops at the first pixel unlike the pixel in
the corner. `isUniform_exact` says that the scan misses nothing and sees nothing else: on a drawable
bitmap it has a result for a sample of every size, negative ones included, and finds the sample
uniform exactly when all its pixels are like the one in the corner. So a bitmap that has been filled
is uniform for every sample, and one pixel that is set to another value, in however few bits, is
noticed exactly by the samples that hold the pixel and a second one to compare it with.

`marked` are the values of a bitmap that is of one colour but for one pixel, and
`marked_constant_iff` says which samples of them are of one value.
-/

set_option autoImplicit false
set_option relaxedAutoImplicit false

namespace PageCapture.Bitmap

/-! ### One pixel that is different -/

/-- The values of one colour everywhere, but of another one in column `x` and row `y`. -/
def marked (colour other : UInt32) (x y column row : Nat) : UInt32 :=
  if column = x ∧ row = y then other else colour

/-- A sample has two pixels exactly when it has the one to the right of the corner or the one
below. -/
theorem two_le_area_iff {width height : Nat} :
    2 ≤ width * height ↔ 1 < width ∧ 0 < height ∨ 0 < width ∧ 1 < height := by
  constructor
  · intro harea
    have hhigh : 0 < height := Nat.pos_of_lt_mul_left harea
    rcases Nat.lt_or_ge 1 width with hwide | hnarrow
    · exact .inl ⟨hwide, hhigh⟩
    · have hpositive : 0 < width := Nat.pos_of_lt_mul_right harea
      obtain rfl : width = 1 := by omega
      rw [Nat.one_mul] at harea
      exact .inr ⟨hpositive, harea⟩
  · rintro (⟨hwide, hhigh⟩ | ⟨hwide, hhigh⟩)
    · exact Nat.mul_le_mul hwide hhigh
    · exact Nat.mul_le_mul hwide hhigh

/-- All values of a sample are like the one in the corner unless the pixel that is different is in
the sample and not alone there. -/
theorem marked_constant_iff {colour other : UInt32} (hother : other ≠ colour)
    (x y width height : Nat) :
    (∀ column row, column < width → row < height →
        marked colour other x y column row = marked colour other x y 0 0) ↔
      ¬ (x < width ∧ y < height ∧ 2 ≤ width * height) := by
  constructor
  · rintro hall ⟨hx, hy, harea⟩
    by_cases hcorner : 0 = x ∧ 0 = y
    · -- The corner itself is different: the second pixel gives it away.
      obtain ⟨column, row, hlike, hsecond⟩ : ∃ column row,
          marked colour other x y column row = marked colour other x y 0 0 ∧
            ¬ (column = x ∧ row = y) := by
        rcases two_le_area_iff.mp harea with ⟨hwide, hhigh⟩ | ⟨hwide, hhigh⟩
        · exact ⟨1, 0, hall 1 0 hwide hhigh, by omega⟩
        · exact ⟨0, 1, hall 0 1 hwide hhigh, by omega⟩
      rw [marked, if_neg hsecond, marked, if_pos hcorner] at hlike
      exact hother hlike.symm
    · have hlike := hall x y hx hy
      rw [marked, if_pos ⟨rfl, rfl⟩, marked, if_neg hcorner] at hlike
      exact hother hlike
  · intro hmissed column row hcolumn hrow
    by_cases hcorner : column = 0 ∧ row = 0
    · rw [hcorner.1, hcorner.2]
    · have harea : 2 ≤ width * height := two_le_area_iff.mpr (by omega)
      have houtside : ¬ (x < width ∧ y < height) := fun hinside ↦
        hmissed ⟨hinside.1, hinside.2, harea⟩
      rw [marked, if_neg (by omega), marked, if_neg (by omega)]

/-! ### The check -/

/-- All pixels of a sample, cut to the bitmap, have the value of the first pixel. -/
def Uniform (b : Bitmap) (sample : Size) : Prop :=
  ∀ x y, x < sampled sample.width b.width → y < sampled sample.height b.height →
    b.pixel x y = b.pixel 0 0

/-- The check of a sample tells whether the sample is uniform. -/
theorem Drawable.isUniform_iff {b : Bitmap} (hb : b.Drawable) (sample : Size) :
    ∃ uniform, b.isUniform sample = .ok uniform ∧ (uniform = true ↔ b.Uniform sample) := by
  obtain ⟨value, hholds⟩ := hb.readable.exists_holds
  obtain ⟨uniform, hends, hiff⟩ := hb.isUniform hholds sample
  refine ⟨uniform, hends, hiff.trans ?_⟩
  have hfirst := hholds 0 0 hb.readable.width_pos hb.readable.height_pos
  refine forall₂_congr fun x y ↦ forall₂_congr fun hx hy ↦ ?_
  rw [hfirst, hholds x y (Nat.lt_of_lt_of_le hx (Nat.min_le_right ..))
    (Nat.lt_of_lt_of_le hy (Nat.min_le_right ..)), Except.ok.injEq]

/-- Giving a pixel of a bitmap of one colour another value. -/
theorem Readable.holds_of_setPixel {b : Bitmap} (hb : b.Readable) {colour : UInt32}
    (hholds : b.Holds fun _ _ ↦ colour) {x y : Nat} (hx : x < b.width.toNat)
    (hy : y < b.height.toNat) (other : UInt32) :
    ∃ changed, (Bitmap.setPixel x y other).results b = (.ok (), changed) ∧
      changed.SameShape b ∧ changed.Holds (marked colour other x y) := by
  obtain ⟨changed, hset, hkept, hmarked⟩ := hb.holds_setPixel hholds hx hy other
  exact ⟨changed, hset, hkept.toSameShape, hmarked⟩

/-- The check of a sample. Assumes: a drawable bitmap. Every pixel has a value, and for a sample of
every size the check has a result: whether the pixels of the sample, cut to the bitmap, are like the
one in the corner. Filled with a colour the bitmap is uniform for every sample; when one of its
pixels is then set to another value, it is not uniform exactly for the samples that hold this pixel
and have at least two. -/
theorem isUniform_exact {b : Bitmap} (hb : b.Drawable) :
    (∃ value, b.Holds value) ∧
    (∀ sample, ∃ uniform, b.isUniform sample = .ok uniform ∧
      (uniform = true ↔ b.Uniform sample)) ∧
    ∀ colour, ∃ filled, (Bitmap.fill colour).results b = (.ok (), filled) ∧
      filled.Holds (fun _ _ ↦ colour) ∧ (∀ sample, filled.isUniform sample = .ok true) ∧
      ∀ x y other, x < b.width.toNat → y < b.height.toNat → other ≠ colour →
        ∃ changed, (Bitmap.setPixel x y other).results filled = (.ok (), changed) ∧
          ∀ sample, ∃ uniform, changed.isUniform sample = .ok uniform ∧
            (uniform = false ↔ x < sampled sample.width b.width ∧
              y < sampled sample.height b.height ∧
              2 ≤ sampled sample.width b.width * sampled sample.height b.height) := by
  refine ⟨hb.readable.exists_holds, hb.isUniform_iff, fun colour ↦ ?_⟩
  obtain ⟨filled, hfill, hshape, -, hholds⟩ := hb.readable.paint fun _ _ ↦ colour
  have hfilled := hb.of_sameShape hshape
  refine ⟨filled, hfill, hholds, fun sample ↦ ?_, fun x y other hx hy hother ↦ ?_⟩
  · obtain ⟨uniform, hchecked, hiff⟩ := hfilled.isUniform hholds sample
    rw [hchecked, hiff.mpr fun _ _ _ _ ↦ rfl]
  · rw [← hshape.width] at hx
    rw [← hshape.height] at hy
    obtain ⟨changed, hset, hkept, hmarked⟩ := hfilled.readable.holds_of_setPixel hholds hx hy other
    refine ⟨changed, hset, fun sample ↦ ?_⟩
    obtain ⟨uniform, hchecked, hiff⟩ := (hfilled.of_sameShape hkept).isUniform hmarked sample
    rw [marked_constant_iff hother, hkept.width, hkept.height, hshape.width, hshape.height] at hiff
    refine ⟨uniform, hchecked, ?_⟩
    rw [← Bool.not_eq_true, hiff, Decidable.not_not]

/-- Two rows of two pixels, with two bytes of padding behind the first row and one behind the
last. -/
def paddedSquare : Bitmap where
  width := 2
  height := 2
  stride := 10
  format := .bgra
  data := #[1, 2, 3, 4, 5, 6, 7, 8, 0, 0, 9, 10, 11, 12, 13, 14, 15, 16, 0]

/-- The square is made clear white and its lower right pixel opaque. A sample that is cut to the
square shows it; the first row alone does not, and neither does a sample of a negative width. -/
theorem isUniform_exact_paddedSquare :
    paddedSquare.Drawable ∧
    ∃ filled, (Bitmap.fill 0x00FFFFFF).results paddedSquare = (.ok (), filled) ∧
      (∀ sample, filled.isUniform sample = .ok true) ∧
      ∃ changed, (Bitmap.setPixel 1 1 0xFFFFFFFF).results filled = (.ok (), changed) ∧
        changed.isUniform ⟨9, 2⟩ = .ok false ∧ changed.isUniform ⟨2, 1⟩ = .ok true ∧
        changed.isUniform ⟨-3, 2⟩ = .ok true := by
  have hb : paddedSquare.Drawable := by
    refine ⟨?_, by decide, by decide, by decide⟩
    unfold Sound
    decide
  obtain ⟨-, -, hcolours⟩ := isUniform_exact hb
  obtain ⟨filled, hfill, -, huniform, hmarks⟩ := hcolours 0x00FFFFFF
  obtain ⟨changed, hset, hsamples⟩ := hmarks 1 1 0xFFFFFFFF (by decide) (by decide) (by decide)
  refine ⟨hb, filled, hfill, huniform, changed, hset, ?_, ?_, ?_⟩
  · obtain ⟨uniform, hchecked, hiff⟩ := hsamples ⟨9, 2⟩
    rw [hchecked, hiff.mpr (by decide)]
  · obtain ⟨uniform, hchecked, hiff⟩ := hsamples ⟨2, 1⟩
    rw [hchecked, Bool.of_not_eq_false (mt hiff.mp (by decide))]
  · obtain ⟨uniform, hchecked, hiff⟩ := hsamples ⟨-3, 2⟩
    rw [hchecked, Bool.of_not_eq_false (mt hiff.mp (by decide))]

end PageCapture.Bitmap
