import PageCapture.Proofs.Browser.Drawing
import PageCapture.Proofs.Screenshot.Answer

/-!
# Views of a simulated browser

What a view of some size looks like. `PaintOutcome.picture` is the picture of a size that shows an
outcome, with the samples of `samplesOf_paintedPixel`, and `picture_eq_iff` tells two of them apart.
`Size.drawn` follows a script through the drawings of a view: it shows something unless there is no
bitmap of the size (`drawn_of_refused`) or every drawing fails (`drawn_failing`, `exists_drawn`).

`drawView_draws` says that drawing a view comes to that, and that what was drawn is answered with
the picture.
-/

set_option autoImplicit false
set_option relaxedAutoImplicit false

namespace PageCapture

/-! ### Pictures of a size -/

namespace Size

variable (size : Size)

/-- The sides of a size as those of a picture. -/
def columns : UInt32 := UInt32.ofNat size.width.toInt.toNat

def rows : UInt32 := UInt32.ofNat size.height.toInt.toNat

theorem toNat_columns : size.columns.toNat = size.width.toInt.toNat := by
  have hbelow := Int32.toInt_lt size.width
  exact UInt32.toNat_ofNat_of_lt' (by simp only [UInt32.size]; omega)

theorem toNat_rows : size.rows.toNat = size.height.toInt.toNat := by
  have hbelow := Int32.toInt_lt size.height
  exact UInt32.toNat_ofNat_of_lt' (by simp only [UInt32.size]; omega)

/-- A bitmap of the size can be had. -/
def Granted : Prop :=
  size.width.toInt.toNat * Bitmap.pixelSize * size.height.toInt.toNat < 9223372036854775808

instance : Decidable size.Granted := Nat.decLt _ _

/-- Whether the sample of a picture tells a painted one from a blank one. -/
def tells (sample : Size) : Bool :=
  TellsApart (Bitmap.sampled sample.width size.columns) (Bitmap.sampled sample.height size.rows)

end Size

/-- The picture of a size that shows an outcome. -/
def PaintOutcome.picture (outcome : PaintOutcome) (size : Size) : Png.Image :=
  drawing size.columns size.rows .bgra outcome.pixels

theorem PaintOutcome.picture_wellFormed (outcome : PaintOutcome) {size : Size}
    (hwidth : 1 ≤ size.width.toInt) : (outcome.picture size).WellFormed := by
  refine drawing_wellFormed (fun hempty ↦ ?_) .bgra _
  have hcolumns := size.toNat_columns
  rw [hempty, UInt32.toNat_zero] at hcolumns
  omega

/-- The samples of a painted pixel. -/
theorem samplesOf_paintedPixel (x y : Nat) :
    PixelFormat.bgra.samplesOf (SimulatedBrowser.paintedPixel x y) =
      [UInt8.ofNat (x % 256), UInt8.ofNat (y % 256), UInt8.ofNat ((x ^^^ y) % 256), 255] := by
  have hred := Nat.mod_lt x (show 0 < 256 by decide)
  have hgreen := Nat.mod_lt y (show 0 < 256 by decide)
  have hblue := Nat.mod_lt (x ^^^ y) (show 0 < 256 by decide)
  have hvalue : (SimulatedBrowser.paintedPixel x y).toNat =
      0xFF000000 + x % 256 * 65536 + y % 256 * 256 + (x ^^^ y) % 256 :=
    UInt32.toNat_ofNat_of_lt' (by simp only [UInt32.size]; omega)
  have hbyte : ∀ n m : Nat, n % 256 = m % 256 → UInt8.ofNat n = UInt8.ofNat m :=
    fun n m hsame ↦ UInt8.toNat_inj.mp (by rw [UInt8.toNat_ofNat', UInt8.toNat_ofNat', hsame])
  simp only [PixelFormat.samplesOf, Bytes.byteOf, hvalue, Nat.pow_eq, List.cons.injEq, and_true]
  generalize x % 256 = red, y % 256 = green, (x ^^^ y) % 256 = blue at *
  exact ⟨hbyte _ _ (by omega), hbyte _ _ (by omega), hbyte _ _ (by omega),
    hbyte _ 255 (by omega)⟩

/-- Pictures of sizes that are not empty, and of outcomes that are no failures, are the same exactly
when the sizes and the outcomes are. -/
theorem picture_eq_iff {first second : Size} {one other : PaintOutcome}
    (hfirst : 1 ≤ first.width.toInt ∧ 1 ≤ first.height.toInt)
    (hsecond : 1 ≤ second.width.toInt ∧ 1 ≤ second.height.toInt) (hone : one ≠ .fail)
    (hother : other ≠ .fail) :
    one.picture first = other.picture second ↔ first = second ∧ one = other := by
  constructor
  · intro hsame
    have hcolumns : first.columns = second.columns := congrArg Png.Image.width hsame
    have hrows : first.rows = second.rows := congrArg Png.Image.height hsame
    have hsize : first = second := by
      rw [← UInt32.toNat_inj, first.toNat_columns, second.toNat_columns] at hcolumns
      rw [← UInt32.toNat_inj, first.toNat_rows, second.toNat_rows] at hrows
      exact Size.eq_of_toInt (by omega) (by omega)
    subst hsize
    refine ⟨rfl, ?_⟩
    have hcorner := congrArg (fun image ↦ image.pixel? 0 0) hsame
    simp only [PaintOutcome.picture] at hcorner
    rw [pixel?_drawing .bgra _ (by rw [first.toNat_columns]; omega)
      (by rw [first.toNat_rows]; omega), pixel?_drawing .bgra _
      (by rw [first.toNat_columns]; omega) (by rw [first.toNat_rows]; omega)] at hcorner
    revert hone hother hcorner
    cases one <;> cases other <;> decide
  · rintro ⟨rfl, rfl⟩
    rfl

/-! ### Scripts -/

/-- What drawing a view of a size comes to: the outcome that is shown, if any, and the outcomes to
come. Nothing is drawn where there is no bitmap. -/
def Size.drawn (size sample : Size) (script : List PaintOutcome) :
    Option PaintOutcome × List PaintOutcome :=
  if size.Granted then drawnFrom (size.tells sample) drawAttempts none script else (none, script)

namespace Size

variable {size : Size} (hgranted : size.Granted) (sample : Size)

include hgranted

/-- Without a script the page is drawn. -/
theorem drawn_nil : size.drawn sample [] = (some .painted, []) := by
  rw [drawn, if_pos hgranted]
  cases size.tells sample <;> rfl

/-- Failures for all drawings use themselves up. -/
theorem drawn_failing (script : List PaintOutcome) :
    size.drawn sample (.fail :: .fail :: .fail :: script) = (none, script) := by
  rw [drawn, if_pos hgranted]
  exact drawnFrom_replicate_append _ drawAttempts script

/-- Any other script shows something. -/
theorem exists_drawn {script : List PaintOutcome}
    (hscript : ¬ [.fail, .fail, .fail] <+: script) :
    ∃ outcome, (size.drawn sample script).1 = some outcome ∧ outcome ≠ .fail := by
  rw [drawn, if_pos hgranted]
  exact drawnFrom_of_not_prefix _ hscript

omit hgranted in
theorem drawn_of_refused (hrefused : ¬ size.Granted) (script : List PaintOutcome) :
    size.drawn sample script = (none, script) :=
  if_neg hrefused

end Size

/-! ### Drawing a view -/

/-- A picture, if there is one, and the outcomes to come are as a drawing says. -/
structure Draws (size : Size) (drawn : Option PaintOutcome × List PaintOutcome)
    (image? : Option Bitmap) (rest : List PaintOutcome) : Prop where
  rest : rest = drawn.2
  none : drawn.1 = none → image? = none
  some : ∀ outcome, drawn.1 = some outcome →
    ∃ image, image? = some image ∧ respond image = .ok (answer (outcome.picture size))

namespace SimulatedBrowser

/-- A bitmap that shows an outcome is answered with its picture. -/
theorem Pictures.respond_eq {size : Size} {model image : Bitmap} {outcome : PaintOutcome}
    (himage : Pictures outcome model image)
    (hblank : Bitmap.blank? size.width size.height .bgra = some model) :
    respond image = .ok (answer (outcome.picture size)) := by
  obtain ⟨-, -, -, hwidth, hheight, -, hformat, -⟩ := Bitmap.blank?_eq_some hblank
  have hcolumns : model.width = size.columns :=
    UInt32.toNat_inj.mp (hwidth.trans size.toNat_columns.symm)
  have hrows : model.height = size.rows := UInt32.toNat_inj.mp (hheight.trans size.toNat_rows.symm)
  have hdrawable := (Bitmap.drawable_of_blank? hblank).of_sameShape himage.shape
  rw [hdrawable.respond_eq himage.holds, himage.shape.width, himage.shape.height, himage.format,
    hcolumns, hrows, hformat]
  rfl

/-- Drawing a view of a size that is not empty. -/
theorem drawView_draws {scenario : Scenario} {scene : Scene} {size : Size}
    (hwidth : 1 ≤ size.width.toInt) (hheight : 1 ≤ size.height.toInt) (sample : Size) :
    Action.Gives (Shows scenario scene) (drawView host.toWindowSystem contentWindow size sample)
      fun image? last ↦ ∃ rest, Draws size (size.drawn sample scene.paint) image? rest ∧
        Shows scenario { scene with paint := rest } last := by
  unfold Size.drawn
  by_cases hgranted : size.Granted
  · obtain ⟨model, hblank⟩ := Bitmap.exists_blank? .bgra hwidth hheight hgranted
    obtain ⟨-, -, -, hcolumns, hrows, -, -, -⟩ := Bitmap.blank?_eq_some hblank
    rw [if_pos hgranted]
    refine (drawView_gives hblank).mono fun image? last hleaves ↦ ?_
    have htells : size.tells sample = TellsApart (Bitmap.sampled sample.width model.width)
        (Bitmap.sampled sample.height model.height) := by
      simp only [Size.tells, Bitmap.sampled, hcolumns, hrows, size.toNat_columns, size.toNat_rows]
    rw [← htells] at hleaves
    refine ⟨_, ⟨rfl, hleaves.none, fun outcome hshown ↦ ?_⟩, hleaves.shows⟩
    obtain ⟨image, himage, hpictures⟩ := hleaves.some outcome hshown
    exact ⟨image, himage, hpictures.respond_eq hblank⟩
  · have hrefused : Bitmap.blank? size.width size.height .bgra = none := by
      cases hblank : Bitmap.blank? size.width size.height .bgra with
      | none => rfl
      | some model => exact absurd (Bitmap.blank?_eq_some hblank).2.2.1 hgranted
    rw [if_neg hgranted]
    refine Action.yields_pure.bind_gives ?_
    simp only [hrefused]
    exact fun browser hshows ↦ ⟨none, browser, rfl, scene.paint, ⟨rfl, fun _ ↦ rfl, nofun⟩, hshows⟩

end SimulatedBrowser

end PageCapture
