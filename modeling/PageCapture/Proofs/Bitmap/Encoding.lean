import PageCapture.Proofs.Base64.RoundTrip
import PageCapture.Proofs.Bitmap.Picture
import PageCapture.Proofs.Png.RoundTrip

/-!
# Encoding without loss

A bitmap is made for a window system: rows may be padded, bytes may follow the last row, and the
fourth byte of a pixel need not mean anything. `encode_lossless` says that its encoding keeps what
is a picture in that and nothing else. Every readable bitmap is encoded; the picture has the size of
the bitmap and the channels of each pixel at the place of the pixel; and two bitmaps of one size and
format have the same encoding exactly when their pixels stand for the same colours. The file is read
back as the picture, and the text, which consists of the sixty-four symbols, as the file.

`PixelFormat.channels` are the channels of a value by shifts, `PixelFormat.SameColour` says which
values a format does not tell apart, and `drawing_eq_iff` when two drawings are the same.
-/

set_option autoImplicit false
set_option relaxedAutoImplicit false

namespace PageCapture

/-! ### Channels -/

/-- The channels of a value in the order of a picture: red, green, blue and, in a format that has
it, opacity. -/
def PixelFormat.channels (format : PixelFormat) (value : UInt32) : List UInt8 :=
  match format with
  | .bgra => [(value >>> 16).toUInt8, (value >>> 8).toUInt8, value.toUInt8, (value >>> 24).toUInt8]
  | .bgrx => [(value >>> 16).toUInt8, (value >>> 8).toUInt8, value.toUInt8]

/-- Values that stand for the same colour: in a format without opacity the fourth byte does not
count. -/
def PixelFormat.SameColour (format : PixelFormat) (first second : UInt32) : Prop :=
  match format with
  | .bgra => first = second
  | .bgrx => first % 16777216 = second % 16777216

/-- A byte of a number is what a shift by whole bytes brings to its end. -/
theorem toUInt8_shiftRight (value shift : UInt32) (place : Nat) (hshift : shift.toNat = 8 * place)
    (hplace : place < 4) : (value >>> shift).toUInt8 = Bytes.byteOf value.toNat place := by
  apply UInt8.toNat_inj.mp
  rw [UInt32.toNat_toUInt8, UInt32.toNat_shiftRight, hshift, Nat.shiftRight_eq_div_pow,
    Nat.mod_eq_of_lt (show 8 * place < 32 by omega), Nat.pow_mul, Bytes.byteOf, UInt8.toNat_ofNat']
  rfl

/-- The samples of a pixel are the channels of its value. -/
theorem PixelFormat.samplesOf_eq_channels (format : PixelFormat) (value : UInt32) :
    format.samplesOf value = format.channels value := by
  have hred := toUInt8_shiftRight value 16 2 rfl (by decide)
  have hgreen := toUInt8_shiftRight value 8 1 rfl (by decide)
  have hblue : value.toUInt8 = Bytes.byteOf value.toNat 0 := by
    have hshift := toUInt8_shiftRight value 0 0 rfl (by decide)
    rwa [UInt32.shiftRight_zero] at hshift
  have hopacity := toUInt8_shiftRight value 24 3 rfl (by decide)
  cases format with
  | bgra => simp only [samplesOf, channels, hred, hgreen, hblue, hopacity]
  | bgrx => simp only [samplesOf, channels, hred, hgreen, hblue]

/-- The samples of two pixels are the same exactly when their values stand for the same colour. -/
theorem PixelFormat.samplesOf_eq_iff (format : PixelFormat) (first second : UInt32) :
    format.samplesOf first = format.samplesOf second ↔ format.SameColour first second := by
  have hbyte : ∀ n m place : Nat, Bytes.byteOf n place = Bytes.byteOf m place ↔
      n / 256 ^ place % 256 = m / 256 ^ place % 256 := by
    intro n m place
    rw [Bytes.byteOf, Bytes.byteOf, ← UInt8.toNat_inj, UInt8.toNat_ofNat', UInt8.toNat_ofNat']
    rfl
  have hfirst := first.toNat_lt
  have hsecond := second.toNat_lt
  cases format with
  | bgra =>
    simp only [samplesOf, SameColour, List.cons.injEq, and_true, hbyte, ← UInt32.toNat_inj]
    omega
  | bgrx =>
    simp only [samplesOf, SameColour, List.cons.injEq, and_true, hbyte, ← UInt32.toNat_inj,
      UInt32.toNat_mod]
    rw [show (16777216 : UInt32).toNat = 16777216 from rfl]
    omega

/-! ### Drawings -/

/-- Two drawings of one size and format are the same exactly when the pixels stand for the same
colours. -/
theorem drawing_eq_iff {width height : UInt32} {format : PixelFormat}
    {value other : Nat → Nat → UInt32} :
    drawing width height format value = drawing width height format other ↔
      ∀ x y, x < width.toNat → y < height.toNat → format.SameColour (value x y) (other x y) := by
  constructor
  · intro hsame x y hx hy
    have hpixel := congrArg (fun image ↦ image.pixel? x y) hsame
    simp only [pixel?_drawing format _ hx hy, Option.some.injEq] at hpixel
    exact (format.samplesOf_eq_iff _ _).mp hpixel
  · intro hsame
    have hrow : ∀ y < height.toNat,
        ((List.range width.toNat).flatMap fun x ↦ format.samplesOf (value x y)) =
          (List.range width.toNat).flatMap fun x ↦ format.samplesOf (other x y) := by
      intro y hy
      exact flatMap_range_congr fun x hx ↦ (format.samplesOf_eq_iff _ _).mpr (hsame x y hx hy)
    have hrows := List.map_congr_left fun y hy ↦ hrow y (List.mem_range.mp hy)
    simp only [drawing, hrows]

/-! ### Encodings -/

/-- The encoding of a picture: its file, and the transport text of the file. -/
def Png.Image.encoded (image : Png.Image) : EncodedImage :=
  ⟨Png.write image, Base64.encode (Png.write image)⟩

/-- Different pictures have different encodings. -/
theorem Png.Image.encoded_injective {first second : Png.Image} (hfirst : first.WellFormed)
    (hsecond : second.WellFormed) (hsame : first.encoded = second.encoded) : first = second := by
  have hfile : Png.write first = Png.write second := congrArg EncodedImage.file hsame
  have hread := Png.read?_write hfirst
  rw [hfile, Png.read?_write hsecond] at hread
  exact (Option.some.inj hread).symm

/-- A readable bitmap is encoded as the drawing of its values. -/
theorem Bitmap.Readable.encode_eq {b : Bitmap} (hb : b.Readable) {value : Nat → Nat → UInt32}
    (hholds : b.Holds value) :
    (encode (some b)).run = .ok (.ok (drawing b.width b.height b.format value).encoded) := by
  unfold encode
  simp only
  rw [ExceptT.run_bind, hb.picture hholds]
  rfl

/-- The encoding of a bitmap. Assumes: the bitmap is sound and its data can be addressed. Nothing is
refused. The picture is as large as the bitmap; the pixel in column `x` and row `y`, counted from
the top, consists of the channels of the bitmap's pixel there; the file is read back as the picture
and the text as the file. Padding, trailing bytes and a fourth byte without meaning leave no trace:
bitmaps of one size and format are encoded alike if and only if their pixels stand for the same
colours. -/
theorem encode_lossless {b : Bitmap} (hsound : b.Sound)
    (haddressable : b.data.size < Checked.addressRange) :
    ∃ value image encoded, b.Holds value ∧
      b.picture.run = .ok (.ok image) ∧ (encode (some b)).run = .ok (.ok encoded) ∧
      encoded.file = Png.write image ∧ Png.read? encoded.file = some image ∧
      image.width = b.width ∧ image.height = b.height ∧ image.WellFormed ∧
      (image.colour = .rgba ↔ b.format = .bgra) ∧
      (∀ x y, x < b.width.toNat → y < b.height.toNat →
        image.pixel? x y = some (b.format.channels (value x y))) ∧
      (∀ other another, other.Sound → other.data.size < Checked.addressRange →
        other.width = b.width → other.height = b.height → other.format = b.format →
        other.Holds another →
        ((encode (some other)).run = (encode (some b)).run ↔
          ∀ x y, x < b.width.toNat → y < b.height.toNat →
            b.format.SameColour (another x y) (value x y))) ∧
      (∀ c ∈ encoded.text.toList, c.isAlphanum ∨ c = '+' ∨ c = '/') ∧
      Base64.decode encoded.text = .ok encoded.file := by
  have hb : b.Readable := ⟨hsound, haddressable⟩
  obtain ⟨value, hholds⟩ := hb.exists_holds
  have hformed : ∀ value, (drawing b.width b.height b.format value).WellFormed :=
    fun value ↦ drawing_wellFormed hsound.1 b.format value
  refine ⟨value, drawing b.width b.height b.format value, _, hholds, hb.picture hholds,
    hb.encode_eq hholds, rfl, Png.read?_write (hformed value), rfl, rfl, hformed value, ?_, ?_, ?_,
    fun c hc ↦ Base64.mem_encode hc, Base64.decode_encode _⟩
  · change b.format.colour = .rgba ↔ b.format = .bgra
    cases b.format <;> decide
  · intro x y hx hy
    rw [pixel?_drawing b.format value hx hy, b.format.samplesOf_eq_channels]
  · intro other another hother hrange hwidth hheight hformat hanother
    have hreadable : other.Readable := ⟨hother, hrange⟩
    rw [hreadable.encode_eq hanother, hb.encode_eq hholds, hwidth, hheight, hformat,
      ← drawing_eq_iff, Except.ok.injEq, Except.ok.injEq]
    constructor
    · intro hsame
      exact Png.Image.encoded_injective (hformed another) (hformed value) hsame
    · intro hsame
      rw [hsame]

/-- A column of two pixels without opacity: two bytes of padding behind the first, and a byte behind
the last that belongs to nothing. -/
def Bitmap.paddedColumn : Bitmap where
  width := 1
  height := 2
  stride := 6
  format := .bgrx
  data := #[10, 20, 30, 40, 1, 2, 50, 60, 70, 80, 3]

/-- The same column without padding, other bytes in the place of the opacity. -/
def Bitmap.denseColumn : Bitmap where
  width := 1
  height := 2
  stride := 4
  format := .bgrx
  data := #[10, 20, 30, 0, 50, 60, 70, 255]

/-- The encoding of the padded column: its lower pixel is red 70, green 60, blue 50, and without the
padding the encoding is the same. -/
theorem encode_lossless_paddedColumn :
    Bitmap.paddedColumn.Sound ∧ Bitmap.paddedColumn.data.size < Checked.addressRange ∧
    ∃ image encoded, (encode (some Bitmap.paddedColumn)).run = .ok (.ok encoded) ∧
      Png.read? encoded.file = some image ∧ image.pixel? 0 1 = some [70, 60, 50] ∧
      (encode (some Bitmap.denseColumn)).run = .ok (.ok encoded) ∧
      Base64.decode encoded.text = .ok encoded.file := by
  have hsound : Bitmap.paddedColumn.Sound := by
    unfold Bitmap.Sound
    decide
  have hdense : Bitmap.denseColumn.Readable := by
    refine ⟨?_, by decide⟩
    unfold Bitmap.Sound
    decide
  have hrange : Bitmap.paddedColumn.data.size < Checked.addressRange := by decide
  obtain ⟨value, image, encoded, hholds, -, hencode, -, hread, -, -, -, -, hpixels, hsame, -,
    hdecode⟩ := encode_lossless hsound hrange
  have hupper : value 0 0 = 0x281E140A := Except.ok.inj ((hholds 0 0 (by decide) (by decide)).symm)
  have hlower : value 0 1 = 0x50463C32 := Except.ok.inj ((hholds 0 1 (by decide) (by decide)).symm)
  obtain ⟨another, hanother⟩ := hdense.exists_holds
  have htop : another 0 0 = 0x001E140A :=
    Except.ok.inj ((hanother 0 0 (by decide) (by decide)).symm)
  have hbottom : another 0 1 = 0xFF463C32 :=
    Except.ok.inj ((hanother 0 1 (by decide) (by decide)).symm)
  refine ⟨hsound, hrange, image, encoded, hencode, hread, ?_, ?_, hdecode⟩
  · rw [hpixels 0 1 (by decide) (by decide), hlower]
    rfl
  · rw [← hencode]
    refine (hsame _ another hdense.sound hdense.addressable rfl rfl rfl hanother).mpr ?_
    intro x y hx hy
    obtain rfl : x = 0 := Nat.lt_one_iff.mp hx
    have hrows : y = 0 ∨ y = 1 := by
      have hheight : y < 2 := hy
      omega
    rcases hrows with rfl | rfl
    · rw [hupper, htop]
      rfl
    · rw [hlower, hbottom]
      rfl

end PageCapture
