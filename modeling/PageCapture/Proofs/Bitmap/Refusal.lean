import PageCapture.Proofs.Bitmap.Encoding

/-!
# Bitmaps that are not encoded

The fields of a bitmap may hold anything. A bitmap is refused as malformed when its rows do not fit
its stride, when it has no rows, or when its data is shorter than the rows are; a bitmap without
columns is refused after that. `encode_ends` says which bitmaps these are, and that the rest is
encoded, whatever the numbers are.

Two kinds of bitmaps are not refused but end the encoding with a fault (`encode_ends_distantRows`
has one of each). The rows of a `Vast` bitmap take so many bytes that their number overflows before
the data is compared with it. The rows of a `Hollow` bitmap take no bytes at all, so that nothing is
missing, and the data is cut into rows of no bytes before the missing columns are noticed.

`Ending` lists the ways through the checks, and `picture_ending` says that every bitmap goes one of
them. Behind the checks nothing else can fail: all rows are there (`exists_rows`), and the samples
of the picture are no more than the data (`sampleCount_le`). A picture that is there is well formed
(`wellFormed_of_picture`).
-/

set_option autoImplicit false
set_option relaxedAutoImplicit false

namespace PageCapture.Bitmap

variable {b : Bitmap}

/-! ### Kinds of bitmaps -/

/-- The bitmap does not hold the pixels that it should have. -/
def Malformed (b : Bitmap) : Prop :=
  b.stride.toNat < b.rowLength ∨ b.height = 0 ∨ b.data.size < b.extent

/-- The rows fit the stride but take more bytes than can be addressed. -/
def Vast (b : Bitmap) : Prop :=
  b.rowLength ≤ b.stride.toNat ∧ Checked.addressRange ≤ b.extent

/-- There are rows, but they have no columns and take no bytes. -/
def Hollow (b : Bitmap) : Prop := b.height ≠ 0 ∧ b.width = 0 ∧ b.stride = 0

theorem not_malformed_iff :
    ¬ b.Malformed ↔ b.rowLength ≤ b.stride.toNat ∧ b.height ≠ 0 ∧ b.extent ≤ b.data.size := by
  rw [Malformed, not_or, not_or, Nat.not_lt, Nat.not_lt]

/-- A bitmap is sound exactly when it holds its pixels and there are some. -/
theorem sound_iff : b.Sound ↔ b.width ≠ 0 ∧ ¬ b.Malformed := by
  rw [not_malformed_iff]
  constructor
  · rintro ⟨hwidth, hheight, hrow, hdata⟩
    exact ⟨hwidth, hrow, hheight, hdata⟩
  · rintro ⟨hwidth, hrow, hheight, hdata⟩
    exact ⟨hwidth, hheight, hrow, hdata⟩

theorem Vast.malformed (hvast : b.Vast) (haddressable : b.data.size < Checked.addressRange) :
    b.Malformed :=
  .inr (.inr (Nat.lt_of_lt_of_le haddressable hvast.2))

theorem Hollow.rowLength_eq (hhollow : b.Hollow) : b.rowLength = 0 := by
  rw [rowLength, hhollow.2.1]
  rfl

theorem Hollow.extent_eq (hhollow : b.Hollow) : b.extent = 0 := by
  rw [extent, hhollow.rowLength_eq, hhollow.2.2, UInt64.toNat_zero, Nat.zero_mul]

theorem Hollow.not_malformed (hhollow : b.Hollow) : ¬ b.Malformed := by
  rw [not_malformed_iff, hhollow.rowLength_eq, hhollow.extent_eq]
  exact ⟨Nat.zero_le _, hhollow.1, Nat.zero_le _⟩

theorem Hollow.not_vast (hhollow : b.Hollow) : ¬ b.Vast := by
  rintro ⟨-, hrange⟩
  rw [hhollow.extent_eq] at hrange
  exact absurd hrange (by decide)

/-- Rows that fit a stride of no bytes have no columns. -/
theorem hollow_of_stride (hformed : ¬ b.Malformed) (hstride : b.stride = 0) : b.Hollow := by
  obtain ⟨hrow, hheight, -⟩ := not_malformed_iff.mp hformed
  rw [hstride, UInt64.toNat_zero, rowLength, pixelSize] at hrow
  exact ⟨hheight, UInt32.toNat_inj.mp (by rw [UInt32.toNat_zero]; omega), hstride⟩

/-- The picture of a bitmap that holds its pixels has no more samples than the bitmap has bytes. -/
theorem sampleCount_le (hformed : ¬ b.Malformed) :
    b.pixelCount * b.format.colour.channels ≤ b.data.size := by
  obtain ⟨hrow, hheight, hdata⟩ := not_malformed_iff.mp hformed
  have hchannels : b.format.colour.channels ≤ pixelSize := by
    cases b.format <;> decide
  obtain ⟨above, habove⟩ : ∃ above, b.height.toNat = above + 1 :=
    Nat.exists_eq_succ_of_ne_zero fun hnone ↦ hheight (UInt32.toNat_inj.mp hnone)
  calc b.pixelCount * b.format.colour.channels
      ≤ b.pixelCount * pixelSize := Nat.mul_le_mul_left _ hchannels
    _ = b.rowLength * above + b.rowLength := by
        rw [pixelCount, rowLength, habove, Nat.mul_right_comm, Nat.mul_succ]
    _ ≤ b.stride.toNat * above + b.rowLength :=
        Nat.add_le_add_right (Nat.mul_le_mul_right _ hrow) _
    _ = b.extent := by rw [extent, habove, Nat.add_sub_cancel]
    _ ≤ b.data.size := hdata

/-! ### Checks -/

theorem Vast.required (hvast : b.Vast) :
    ∃ operation, b.required = .error (.overflow operation) := by
  unfold Bitmap.required
  by_cases hwhole : b.stride.toNat * (b.height.toNat - 1) < Checked.addressRange
  · refine ⟨.add, ?_⟩
    rw [Checked.position_eq_ok_iff.mpr ⟨rfl, hwhole⟩]
    exact if_neg (Nat.not_lt.mpr hvast.2)
  · refine ⟨.multiply, ?_⟩
    rw [Checked.position, if_neg hwhole]
    rfl

/-- The rows of a bitmap that holds its pixels are there, unless they take no bytes. -/
theorem exists_rows (hformed : ¬ b.Malformed) (hstride : b.stride ≠ 0) :
    ∃ rows, b.rows = .ok rows ∧ rows.length = b.rowCount ∧
      ∀ row ∈ rows, row.length = b.rowLength := by
  obtain ⟨hrow, -, hdata⟩ := not_malformed_iff.mp hformed
  have hinside : ∀ y ∈ List.range b.rowCount, y * b.stride.toNat + b.rowLength ≤ b.data.size := by
    intro y hy
    have habove := rowStart_le (Nat.lt_of_lt_of_le (List.mem_range.mp hy) (Nat.min_le_left ..))
    rw [extent] at hdata
    omega
  have hrows : b.rows = .ok ((List.range b.rowCount).map fun y ↦
      (b.data.extract (y * b.stride.toNat) (y * b.stride.toNat + b.rowLength)).toList) := by
    rw [rows, if_neg hstride]
    refine mapM_of_forall fun y hy ↦ if_neg ?_
    rw [not_or, Nat.not_lt, Nat.not_lt]
    exact ⟨hinside y hy, hrow⟩
  refine ⟨_, hrows, by rw [List.length_map, List.length_range], fun row hmem ↦ ?_⟩
  obtain ⟨y, hy, rfl⟩ := List.mem_map.mp hmem
  rw [Array.length_toList, Array.size_extract, Nat.min_eq_left (hinside y hy),
    Nat.add_sub_cancel_left]

/-! ### Ends -/

/-- How the picture of a bitmap ends, in the order of the checks. -/
inductive Ending (b : Bitmap) : Except Fault (Except EncodeError Png.Image) → Prop where
  /-- The rows do not fit the stride. -/
  | narrow (hnarrow : b.stride.toNat < b.rowLength) :
      Ending b (.ok (.error (.malformed (.shortStride b.stride.toNat b.rowLength))))
  | vast (hvast : b.Vast) (operation : Operation) : Ending b (.error (.overflow operation))
  /-- There are no rows, or too few bytes for them. -/
  | short (hmalformed : b.Malformed) (hvast : ¬ b.Vast) :
      Ending b (.ok (.error (.malformed
        (.shortData b.data.size b.width.toNat b.height.toNat))))
  | hollow (hhollow : b.Hollow) : Ending b (.error .zeroStride)
  | columnless (hformed : ¬ b.Malformed) (hvast : ¬ b.Vast) (hstride : b.stride ≠ 0)
      (hwidth : b.width = 0) : Ending b (.ok (.error .noColumns))
  | pictured (hformed : ¬ b.Malformed) (hvast : ¬ b.Vast) (hwidth : b.width ≠ 0)
      (image : Png.Image) (himage : image.WellFormed) (hwide : image.width = b.width)
      (hhigh : image.height = b.height) : Ending b (.ok (.ok image))

/-- Every bitmap goes one of the ways through the checks. -/
theorem picture_ending (b : Bitmap) : b.Ending b.picture.run := by
  unfold picture
  by_cases hnarrow : b.stride.toNat < b.rowLength
  · rw [if_pos hnarrow]
    exact .narrow hnarrow
  rw [if_neg hnarrow]
  by_cases hvast : b.Vast
  · obtain ⟨operation, hrequired⟩ := hvast.required
    rw [hrequired]
    exact .vast hvast operation
  have hinside : b.extent < Checked.addressRange :=
    Nat.not_le.mp fun hrange ↦ hvast ⟨Nat.not_lt.mp hnarrow, hrange⟩
  rw [required_eq hinside]
  change b.Ending (ExceptT.run (liftM _ >>= _))
  rw [lift_bind]
  by_cases hshort : b.height = 0 ∨ b.data.size < b.extent
  · rw [if_pos hshort]
    exact .short (.inr hshort) hvast
  rw [if_neg hshort]
  have hformed : ¬ b.Malformed := not_or.mpr ⟨hnarrow, hshort⟩
  by_cases hstride : b.stride = 0
  · rw [rows, if_pos hstride]
    exact .hollow (hollow_of_stride hformed hstride)
  obtain ⟨rows, hrows, hcount, hlengths⟩ := exists_rows hformed hstride
  rw [hrows]
  change b.Ending (ExceptT.run (liftM _ >>= _))
  rw [lift_bind]
  by_cases hwidth : b.width = 0
  · rw [if_pos hwidth]
    exact .columnless hformed hvast hstride hwidth
  rw [if_neg hwidth]
  have hsound : b.Sound := sound_iff.mpr ⟨hwidth, hformed⟩
  refine .pictured hformed hvast hwidth _ ⟨hwidth, ?_, fun samples hsamples ↦ ?_⟩ rfl rfl
  · rw [List.length_map, hcount, hsound.rowCount]
  · obtain ⟨row, hrow, rfl⟩ := List.mem_map.mp hsamples
    exact b.format.length_samples (hlengths row hrow)

/-- A picture of a bitmap, whatever the bitmap is, has as many rows and samples as its header has
it, and the size of the bitmap. -/
theorem wellFormed_of_picture {image : Png.Image} (hpicture : b.picture.run = .ok (.ok image)) :
    image.WellFormed ∧ image.width = b.width ∧ image.height = b.height := by
  have hending := picture_ending b
  rw [hpicture] at hending
  cases hending with
  | pictured _ _ _ _ himage hwide hhigh => exact ⟨himage, hwide, hhigh⟩

/-- A bitmap is encoded as its picture is. -/
theorem run_encode (b : Bitmap) :
    (encode (some b)).run = b.picture.run.map (·.map Png.Image.encoded) := by
  unfold encode
  simp only
  rw [ExceptT.run_bind]
  rcases b.picture.run with fault | error | image <;> rfl

/-- What is encoded is a picture of the size of the bitmap. -/
theorem exists_image_of_encode {encoded : EncodedImage}
    (hencode : (encode (some b)).run = .ok (.ok encoded)) :
    ∃ image : Png.Image, encoded = image.encoded ∧ image.WellFormed ∧ image.width = b.width ∧
      image.height = b.height := by
  rw [run_encode] at hencode
  rcases hpicture : b.picture.run with fault | error | image
  · rw [hpicture] at hencode
    cases hencode
  · rw [hpicture] at hencode
    cases hencode
  · rw [hpicture] at hencode
    cases hencode
    exact ⟨image, rfl, wellFormed_of_picture hpicture⟩

/-- How the encoding of a bitmap ends, whatever its fields hold. A bitmap that is vast is malformed
as soon as its data can be addressed, a hollow one is not, and where a bitmap holds its pixels the
samples of its picture are no more than its bytes. The encoding ends with a fault in two cases only:
the number of bytes that the rows take overflows if and only if the bitmap is vast, and the data is
cut into rows of no bytes if and only if it is hollow. The bitmap is refused as malformed if and
only if it is malformed and not vast. Of the others, those that have columns are encoded, as a
picture of their size, and those without are refused for it unless they are hollow. -/
theorem encode_ends (b : Bitmap) :
    (b.data.size < Checked.addressRange → b.Vast → b.Malformed) ∧
    (b.Hollow → ¬ b.Malformed) ∧
    (¬ b.Malformed → b.pixelCount * b.format.colour.channels ≤ b.data.size) ∧
    (∀ encoded, (encode (some b)).run = .ok (.ok encoded) → ∃ image : Png.Image,
      encoded = image.encoded ∧ image.WellFormed ∧ image.width = b.width ∧
      image.height = b.height) ∧
    ((∃ operation, (encode (some b)).run = .error (.overflow operation)) ↔ b.Vast) ∧
    ((encode (some b)).run = .error .zeroStride ↔ b.Hollow) ∧
    ((∃ ended, (encode (some b)).run = .ok ended) ↔ ¬ b.Vast ∧ ¬ b.Hollow) ∧
    ((∃ cause, (encode (some b)).run = .ok (.error (.malformed cause))) ↔
      b.Malformed ∧ ¬ b.Vast) ∧
    ((encode (some b)).run = .ok (.error .noColumns) ↔
      ¬ b.Malformed ∧ ¬ b.Vast ∧ b.width = 0 ∧ ¬ b.Hollow) ∧
    ((∃ encoded, (encode (some b)).run = .ok (.ok encoded)) ↔
      ¬ b.Malformed ∧ ¬ b.Vast ∧ b.width ≠ 0) := by
  refine ⟨fun haddressable hvast ↦ hvast.malformed haddressable, Hollow.not_malformed,
    sampleCount_le, fun _ ↦ exists_image_of_encode, ?_⟩
  have hending := picture_ending b
  rw [run_encode]
  generalize b.picture.run = ended at hending
  cases hending with
  | narrow hnarrow =>
    have hmalformed : b.Malformed := .inl hnarrow
    have hvast : ¬ b.Vast := fun hvast ↦ absurd hvast.1 (Nat.not_le.mpr hnarrow)
    have hhollow : ¬ b.Hollow := fun hhollow ↦ hhollow.not_malformed hmalformed
    simp [Except.map, hmalformed, hvast, hhollow]
  | vast hvast operation =>
    have hhollow : ¬ b.Hollow := fun hhollow ↦ hhollow.not_vast hvast
    simp [Except.map, hvast, hhollow]
  | short hmalformed hvast =>
    have hhollow : ¬ b.Hollow := fun hhollow ↦ hhollow.not_malformed hmalformed
    simp [Except.map, hmalformed, hvast, hhollow]
  | hollow hhollow =>
    simp [Except.map, hhollow, hhollow.not_malformed, hhollow.not_vast, hhollow.2.1]
  | columnless hformed hvast hstride hwidth =>
    have hhollow : ¬ b.Hollow := fun hhollow ↦ hstride hhollow.2.2
    simp [Except.map, hformed, hvast, hhollow, hwidth]
  | pictured hformed hvast hwidth image himage hwide hhigh =>
    have hhollow : ¬ b.Hollow := fun hhollow ↦ hwidth hhollow.2.1
    simp [Except.map, hformed, hvast, hhollow, hwidth]

/-- Five rows of a pixel, each so far behind the one before it that the last is out of range, and
the data of one. -/
def distantRows : Bitmap where
  width := 1
  height := 5
  stride := 4611686018427387904
  format := .bgra
  data := #[1, 2, 3, 4]

/-- A row without columns, padding and data. -/
def hollowRow : Bitmap where
  width := 0
  height := 1
  stride := 0
  format := .bgra
  data := #[]

/-- The distant rows are malformed but not refused as such. The hollow row is not malformed, has no
columns and is not refused for it. Both encodings end with a fault. -/
theorem encode_ends_distantRows :
    (distantRows.data.size < Checked.addressRange ∧ distantRows.Malformed ∧
      (encode (some distantRows)).run = .error (.overflow .multiply)) ∧
    ¬ hollowRow.Malformed ∧ hollowRow.width = 0 ∧
      (encode (some hollowRow)).run = .error .zeroStride := by
  refine ⟨⟨by decide, .inr (.inr (by decide)), rfl⟩, ?_, rfl, rfl⟩
  rw [not_malformed_iff]
  decide

end PageCapture.Bitmap
