import PageCapture.Proofs.Bitmap.Uniform
import PageCapture.Proofs.Browser.Outcomes
import PageCapture.Proofs.Browser.Scene
import PageCapture.Screenshot.Capture

/-!
# Drawing a simulated browser

The drawings of a view follow the script of a simulated browser as `drawnFrom` says. That depends on
the size of the view and the sample in one bit only, whether the sample tells a painted picture from
a blank one (`TellsApart`): a painted sample is uniform exactly when it has fewer than two pixels
(`painted_uniform_iff`).

`drawView_gives` says that drawing a view comes to that: the picture has the values of the outcome,
or there is none.
-/

set_option autoImplicit false
set_option relaxedAutoImplicit false

namespace PageCapture

/-- The values of the pixels after an outcome. -/
def PaintOutcome.pixels : PaintOutcome → Nat → Nat → UInt32
  | .painted => SimulatedBrowser.paintedPixel
  | _ => fun _ _ ↦ SimulatedBrowser.blankPixel

/-! ### Samples -/

/-- A sample of some sides has at least two pixels. -/
def TellsApart (width height : Nat) : Bool := decide (1 < width * height)

/-- A painted sample is uniform exactly when it has fewer than two pixels. -/
theorem painted_uniform_iff (width height : Nat) :
    (∀ x y, x < width → y < height →
      PaintOutcome.painted.pixels x y = PaintOutcome.painted.pixels 0 0) ↔
      TellsApart width height = false := by
  rw [TellsApart, decide_eq_false_iff_not]
  constructor
  · intro huniform htwo
    rcases Bitmap.two_le_area_iff.mp htwo with ⟨hwide, hhigh⟩ | ⟨hwide, hhigh⟩
    · exact absurd (huniform 1 0 hwide hhigh) (by decide)
    · exact absurd (huniform 0 1 hwide hhigh) (by decide)
  · intro hone x y hx hy
    have hwide : width ≤ width * height := Nat.le_mul_of_pos_right width (by omega)
    have hhigh : height ≤ width * height := Nat.le_mul_of_pos_left height (by omega)
    obtain rfl : x = 0 := by omega
    obtain rfl : y = 0 := by omega
    rfl

namespace SimulatedBrowser

variable {scenario : Scenario} {scene : Scene}

/-- A picture that shows an outcome and has the shape and the format of another. -/
structure Pictures (outcome : PaintOutcome) (model image : Bitmap) : Prop where
  shape : image.SameShape model
  format : image.format = model.format
  holds : image.Holds outcome.pixels

theorem Pictures.trans {outcome : PaintOutcome} {model between image : Bitmap}
    (himage : Pictures outcome between image) (hshape : between.SameShape model)
    (hformat : between.format = model.format) : Pictures outcome model image where
  shape := himage.shape.trans hshape
  format := himage.format.trans hformat
  holds := himage.holds

/-- What a drawing replies depends on the next outcome of the script only. -/
theorem exists_reply {bitmap : Bitmap} (hbitmap : bitmap.Drawable) (outcome : PaintOutcome) :
    ∃ reply, (∀ scenario scene, scene.paint.headD .painted = outcome →
        Action.Yields (Shows scenario scene) (print contentWindow bitmap) reply
          (Shows scenario scene.painted)) ∧
      ((outcome = .fail ∧ reply.2 = bitmap ∧ ∃ error, reply.1 = .error error) ∨
        (outcome ≠ .fail ∧ reply.1 = .ok () ∧ Pictures outcome bitmap reply.2)) := by
  have hnext : ∀ scenario scene, scene.paint.headD .painted = outcome →
      Action.Yields (Shows scenario scene) nextPaint outcome (Shows scenario scene.painted) := by
    rintro scenario scene rfl browser hshows
    unfold nextPaint Scene.painted
    rw [Action.results_ofResults, ← hshows.paint]
    rcases hpaint : browser.paint with _ | ⟨outcome, rest⟩
    · exact ⟨browser, rfl, { hshows with paint := hpaint }⟩
    · exact ⟨_, rfl, { hshows with paint := rfl }⟩
  have hnoted : ∀ scenario scene,
      Action.Yields (Shows scenario scene) _ () (Shows scenario scene) :=
    fun _ _ ↦ note_yields fun log ↦ { log with prints := log.prints + 1 }
  have hfinish : ∀ value, outcome ≠ .fail → outcome.pixels = value →
      ∃ painted, (Bitmap.paint value).results bitmap = (.ok (), painted) ∧
        Pictures outcome bitmap painted := by
    rintro _ - rfl
    obtain ⟨painted, hpaint, hshape, hformat, hholds⟩ := hbitmap.readable.paint outcome.pixels
    exact ⟨painted, hpaint, hshape, hformat, hholds⟩
  rw [print, if_neg (by simp)]
  rcases outcome with _ | _ | _
  · refine ⟨(.error (.call "PrintWindow" "simulated failure"), bitmap),
      fun scenario scene hhead ↦ ?_, .inl ⟨rfl, rfl, _, rfl⟩⟩
    exact (hnoted scenario scene).bind ((hnext scenario scene hhead).bind Action.yields_pure)
  · obtain ⟨painted, hpaint, hpictures⟩ := hfinish (fun _ _ ↦ blankPixel) nofun rfl
    refine ⟨(.ok (), painted), fun scenario scene hhead ↦ ?_, .inr ⟨nofun, rfl, hpictures⟩⟩
    refine (hnoted scenario scene).bind ((hnext scenario scene hhead).bind ?_)
    simp only [Bitmap.fill, hpaint]
    exact Action.yields_pure
  · obtain ⟨painted, hpaint, hpictures⟩ := hfinish paintedPixel nofun rfl
    refine ⟨(.ok (), painted), fun scenario scene hhead ↦ ?_, .inr ⟨nofun, rfl, hpictures⟩⟩
    refine (hnoted scenario scene).bind ((hnext scenario scene hhead).bind ?_)
    simp only [hpaint]
    exact Action.yields_pure

/-- A drawing uses up the next outcome of the script and shows it. -/
theorem print_yields {bitmap : Bitmap} (hbitmap : bitmap.Drawable) :
    ∃ reply, Action.Yields (Shows scenario scene) (print contentWindow bitmap) reply
        (Shows scenario scene.painted) ∧
      ((scene.paint.headD .painted = .fail ∧ reply.2 = bitmap ∧ ∃ error, reply.1 = .error error) ∨
        (scene.paint.headD .painted ≠ .fail ∧ reply.1 = .ok () ∧
          Pictures (scene.paint.headD .painted) bitmap reply.2)) := by
  obtain ⟨reply, hprint, hdrawn⟩ := exists_reply hbitmap (scene.paint.headD .painted)
  exact ⟨reply, hprint scenario scene rfl, hdrawn⟩

/-- The check of a picture that shows an outcome. -/
theorem Pictures.isUniform {outcome : PaintOutcome} {model image : Bitmap}
    (himage : Pictures outcome model image) (hmodel : model.Drawable) (sample : Size) :
    image.isUniform sample = .ok (outcome != .painted ||
      !TellsApart (Bitmap.sampled sample.width model.width)
        (Bitmap.sampled sample.height model.height)) := by
  obtain ⟨uniform, huniform, hiff⟩ :=
    (hmodel.of_sameShape himage.shape).isUniform himage.holds sample
  rw [himage.shape.width, himage.shape.height] at hiff
  rw [huniform]
  refine congrArg _ (Bool.eq_iff_iff.mpr (hiff.trans ?_))
  cases outcome with
  | fail | blank => exact iff_of_true (fun _ _ _ _ ↦ rfl) rfl
  | painted =>
    rw [painted_uniform_iff]
    simp

/-- What the drawings of a view leave: the picture, if there is one, and the browser. -/
structure Leaves (scenario : Scenario) (scene : Scene) (model : Bitmap)
    (drawn : Option PaintOutcome × List PaintOutcome) (image? : Option Bitmap)
    (last : SimulatedBrowser) : Prop where
  shows : Shows scenario { scene with paint := drawn.2 } last
  none : drawn.1 = none → image? = none
  some : ∀ outcome, drawn.1 = some outcome →
    ∃ image, image? = some image ∧ Pictures outcome model image

/-- The drawings of a view follow the script. -/
theorem drawFrom_gives {model : Bitmap} (hmodel : model.Drawable) (sample : Size) (attempts : Nat)
    (shown? : Option PaintOutcome) {bitmap : Bitmap} (hshape : bitmap.SameShape model)
    (hformat : bitmap.format = model.format)
    (hshown : ∀ outcome, shown? = some outcome → Pictures outcome model bitmap) :
    Action.Gives (Shows scenario scene)
      (drawFrom host.toWindowSystem contentWindow sample attempts shown?.isSome bitmap)
      (Leaves scenario scene model
        (drawnFrom (TellsApart (Bitmap.sampled sample.width model.width)
          (Bitmap.sampled sample.height model.height)) attempts shown? scene.paint)) := by
  have hredraw : ∀ scene, Action.Yields (Shows scenario scene)
      (host.redraw contentWindow) () (Shows scenario scene) :=
    fun _ ↦ note_yields fun log ↦ { log with redraws := log.redraws + 1 }
  induction attempts generalizing shown? bitmap scene with
  | zero =>
    intro browser hshows
    refine ⟨_, browser, rfl, hshows, fun hnone ↦ ?_, fun outcome hsome ↦ ?_⟩
    · rw [show shown? = none from hnone]
      rfl
    · exact ⟨bitmap, by rw [show shown? = some outcome from hsome]; rfl, hshown outcome hsome⟩
  | succ attempts ih =>
    -- The scene that the rest of the drawings begins with has lost an outcome; what they leave has
    -- lost more, and is the same in either.
    have hmore : ∀ (shown? : Option PaintOutcome) {bitmap : Bitmap}, bitmap.SameShape model →
        bitmap.format = model.format →
        (∀ outcome, shown? = some outcome → Pictures outcome model bitmap) →
        Action.Gives (Shows scenario scene.painted)
          (drawFrom host.toWindowSystem contentWindow sample attempts shown?.isSome bitmap)
          (Leaves scenario scene model
            (drawnFrom (TellsApart (Bitmap.sampled sample.width model.width)
              (Bitmap.sampled sample.height model.height)) attempts shown? scene.paint.tail)) := by
      intro shown? bitmap hshape hformat hshown
      have hrest : Action.Gives (Shows scenario scene.painted) _ _ :=
        ih shown? hshape hformat hshown
      exact hrest.mono fun image? last hlast ↦ ⟨hlast.shows, hlast.none, hlast.some⟩
    obtain ⟨reply, hprint, hdrawn⟩ := @print_yields scenario scene _ (hmodel.of_sameShape hshape)
    refine hprint.bind_gives fun browser hshows ↦ ?_
    obtain ⟨hfail, hsame, error, herror⟩ | ⟨hfail, hok, hpictures⟩ := hdrawn
    · rcases reply with ⟨reply, printed⟩
      obtain rfl : printed = bitmap := hsame
      obtain rfl : reply = .error error := herror
      rw [drawnFrom, hfail]
      exact (hredraw _).bind_gives (hmore shown? hshape hformat hshown) browser hshows
    · rcases reply with ⟨reply, printed⟩
      obtain rfl : reply = .ok () := hok
      have hprinted : Pictures (scene.paint.headD .painted) model printed :=
        hpictures.trans hshape hformat
      have hshowing := hmore (some (scene.paint.headD .painted)) hprinted.shape hprinted.format
        fun outcome hsome ↦ Option.some.inj hsome ▸ hprinted
      simp only
      rw [hprinted.isUniform hmodel, Action.bind_results, Action.results_check]
      rw [drawnFrom]
      generalize scene.paint.headD .painted = outcome at *
      rcases outcome with _ | _ | _
      · exact absurd rfl hfail
      · exact (hredraw _).bind_gives hshowing browser hshows
      · generalize TellsApart (Bitmap.sampled sample.width model.width)
          (Bitmap.sampled sample.height model.height) = tells at *
        cases tells with
        | false => exact (hredraw _).bind_gives hshowing browser hshows
        | true =>
          refine ⟨some printed, browser, rfl, hshows, fun hnone ↦ ?_, fun outcome hsome ↦ ?_⟩
          · cases hnone
          · exact ⟨printed, rfl, Option.some.inj hsome ▸ hprinted⟩

/-- Drawing a view of a size that has a bitmap. -/
theorem drawView_gives {size sample : Size} {model : Bitmap}
    (hblank : Bitmap.blank? size.width size.height .bgra = some model) :
    Action.Gives (Shows scenario scene)
      (drawView host.toWindowSystem contentWindow size sample)
      (Leaves scenario scene model
        (drawnFrom (TellsApart (Bitmap.sampled sample.width model.width)
          (Bitmap.sampled sample.height model.height)) drawAttempts none scene.paint)) := by
  refine Action.yields_pure.bind_gives ?_
  simp only [hblank]
  exact drawFrom_gives (Bitmap.drawable_of_blank? hblank) sample drawAttempts none (.refl model)
    rfl nofun

end SimulatedBrowser

end PageCapture
