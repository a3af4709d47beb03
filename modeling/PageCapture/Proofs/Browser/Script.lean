import PageCapture.Proofs.Browser.Limit

/-!
# The meaning of a script

`simulateScreenshot_script` says what a script means to a whole request, where the layout follows a
resize at once. The script is read three outcomes at a time, once for each attempt. Three failures
leave the request to the next three outcomes, and any other three decide it (`decisive`). The
picture shows the page if one of them draws it; where the sample that is checked has fewer than two
pixels, a page cannot be told from a blank picture, and the last of them that is no failure counts.

That holds of views that have a bitmap. A view that is too large for one is never drawn, and every
script is answered with the empty success (`Size.answered_of_refused`), one without a failure among
them (`simulateScreenshot_vast`).
-/

set_option autoImplicit false
set_option relaxedAutoImplicit false

namespace PageCapture

/-! ### The decisive outcomes -/

/-- The outcomes that decide a request: the first three, or if they are failures the next three. -/
def decisive (script : List PaintOutcome) : List PaintOutcome :=
  if upcoming 3 script = List.replicate 3 .fail then (upcoming 6 script).drop 3
  else upcoming 3 script

theorem upcoming_six (script : List PaintOutcome) :
    upcoming 6 script = upcoming 3 script ++ upcoming 3 (script.drop 3) :=
  upcoming_add 3 3 script

/-- Nothing decides a request exactly if its first six outcomes are failures. -/
theorem shownAfter_decisive_eq_none_iff {tells : Bool} {script : List PaintOutcome} :
    shownAfter tells (decisive script) = none ↔ upcoming 6 script = List.replicate 6 .fail := by
  have hsix : List.replicate 6 PaintOutcome.fail =
      List.replicate 3 .fail ++ List.replicate 3 .fail := rfl
  rw [decisive, upcoming_six, hsix]
  split
  · rename_i hfails
    rw [List.drop_left' (length_upcoming 3 script), shownAfter_upcoming_eq_none_iff, hfails,
      List.append_cancel_left_eq]
  · rename_i hsome
    rw [shownAfter_upcoming_eq_none_iff]
    exact iff_of_false hsome fun hfails ↦ hsome (List.append_inj_left hfails (by simp))

namespace Size

variable {size : Size} (hgranted : size.Granted) (sample : Size)

include hgranted

theorem drawn_fst (script : List PaintOutcome) :
    (size.drawn sample script).1 = shownAfter (size.tells sample) (upcoming 3 script) := by
  rw [drawn, if_pos hgranted, drawnFrom_fst, Option.or_none]
  rfl

/-- Failures use themselves up. -/
theorem drawn_of_fails {script : List PaintOutcome}
    (hfails : upcoming 3 script = List.replicate 3 .fail) :
    size.drawn sample script = (none, script.drop 3) := by
  obtain ⟨rest, rfl⟩ := exists_append_of_upcoming hfails
  exact drawn_failing hgranted sample rest

/-! ### The attempts of a request -/

/-- An attempt with others behind it. -/
theorem answered_succ (attempts : Nat) (script : List PaintOutcome) :
    size.answered sample (attempts + 1) script =
      if upcoming 3 script = List.replicate 3 .fail then
        size.answered sample attempts (script.drop 3)
      else (shownAfter (size.tells sample) (upcoming 3 script)).elim (.success "")
        fun outcome ↦ answer (outcome.picture size) := by
  rw [answered]
  split
  · rename_i hfails
    rw [drawn_of_fails hgranted sample hfails]
    rfl
  · rename_i hsome
    rw [drawn_fst hgranted sample]
    cases hshown : shownAfter (size.tells sample) (upcoming 3 script) with
    | none => exact absurd (shownAfter_upcoming_eq_none_iff.mp hshown) hsome
    | some outcome => rfl

/-- A request is answered with what its decisive outcomes leave. -/
theorem answered_eq (script : List PaintOutcome) :
    size.answered sample captureAttempts script =
      (shownAfter (size.tells sample) (decisive script)).elim (.success "")
        fun outcome ↦ answer (outcome.picture size) := by
  rw [captureAttempts, answered_succ hgranted sample, decisive]
  split
  · rw [answered_succ hgranted sample, upcoming_six, List.drop_left' (length_upcoming 3 script)]
    split
    · rename_i hfails
      rw [shownAfter_upcoming_eq_none_iff.mpr hfails]
      rfl
    · rfl
  · rfl

/-- Without a script the page is shown. -/
theorem answered_nil :
    size.answered sample captureAttempts [] = answer (PaintOutcome.painted.picture size) := by
  have hshown : shownAfter (size.tells sample) (decisive []) = some .painted := by
    cases size.tells sample <;> rfl
  rw [answered_eq hgranted, hshown]
  rfl

omit hgranted in
/-- Without a bitmap there is nothing to answer with. -/
theorem answered_of_refused (hrefused : ¬ size.Granted) (attempts : Nat)
    (script : List PaintOutcome) : size.answered sample attempts script = .success "" := by
  induction attempts generalizing script with
  | zero => rfl
  | succ attempts ih =>
    rw [answered, drawn_of_refused sample hrefused]
    exact ih script

end Size

/-! ### The sample -/

/-- The number of pixels in the sample that is checked: what the insets and the band along the edges
leave of the viewport at the start. -/
def Scenario.sampleCount (scenario : Scenario) (options : CaptureOptions) : Nat :=
  (scenario.window.width.toInt - scenario.chrome.width.toInt - scenario.clientInsets.width.toInt -
      options.sampleInset.toInt).toNat *
    (scenario.window.height.toInt - scenario.chrome.height.toInt -
      scenario.clientInsets.height.toInt - options.sampleInset.toInt).toNat

/-- A sample of a side that is no longer than the picture is not cut. -/
theorem sampled_subtract {client inset : Int32} {side : UInt32} (hclient : 0 ≤ client.toInt)
    (hinset : 0 ≤ inset.toInt) (hside : client.toInt.toNat ≤ side.toNat) :
    Bitmap.sampled (client - inset) side = (client.toInt - inset.toInt).toNat := by
  rw [Bitmap.sampled, toInt_subtract hclient hinset]
  omega

/-- The sample is cut from the client area at the start, which the picture is no smaller than. -/
theorem Scenario.Limited.tells_sample {scenario : Scenario} {options : CaptureOptions}
    (hlimited : scenario.Limited) (hallowed : options.Allowed) :
    (scenario.pictured options).tells (options.sample scenario.client) =
      decide (2 ≤ scenario.sampleCount options) := by
  obtain ⟨hwidth, hheight⟩ := hlimited.toInt_client
  obtain ⟨hwide, hhigh⟩ := hlimited.client_le_pictured hallowed
  have hclient := hlimited.client_nonneg
  rw [Size.tells, CaptureOptions.sample,
    sampled_subtract hclient.width hallowed.sampleInset (by rw [Size.toNat_columns]; omega),
    sampled_subtract hclient.height hallowed.sampleInset (by rw [Size.toNat_rows]; omega),
    hwidth, hheight]
  rfl

/-! ### The law -/

/-- The samples of a pixel after an outcome. -/
def PaintOutcome.samples : PaintOutcome → Nat → Nat → List UInt8
  | .painted => fun x y ↦
    [UInt8.ofNat (x % 256), UInt8.ofNat (y % 256), UInt8.ofNat ((x ^^^ y) % 256), 255]
  | _ => fun _ _ ↦ [255, 255, 255, 255]

theorem PaintOutcome.samplesOf_pixels (outcome : PaintOutcome) (x y : Nat) :
    PixelFormat.bgra.samplesOf (outcome.pixels x y) = outcome.samples x y := by
  have hblank : PixelFormat.bgra.samplesOf SimulatedBrowser.blankPixel = [255, 255, 255, 255] := by
    decide
  cases outcome with
  | fail | blank => exact hblank
  | painted => exact samplesOf_paintedPixel x y

/-- A picture has a size, and every pixel is the one after an outcome. -/
structure Png.Image.Depicts (image : Png.Image) (size : Size) (outcome : PaintOutcome) : Prop where
  width : (image.width.toNat : Int) = size.width.toInt
  height : (image.height.toNat : Int) = size.height.toInt
  colour : image.colour = .rgba
  pixel? : ∀ x y : Nat, (x : Int) < size.width.toInt → (y : Int) < size.height.toInt →
    image.pixel? x y = some (outcome.samples x y)

theorem PaintOutcome.depicts_picture (outcome : PaintOutcome) {size : Size}
    (hsize : 1 ≤ size.width.toInt ∧ 1 ≤ size.height.toInt) :
    (outcome.picture size).Depicts size outcome := by
  have hcolumns : (size.columns.toNat : Int) = size.width.toInt := by
    rw [size.toNat_columns, Int.toNat_of_nonneg (by omega)]
  have hrows : (size.rows.toNat : Int) = size.height.toInt := by
    rw [size.toNat_rows, Int.toNat_of_nonneg (by omega)]
  refine ⟨hcolumns, hrows, rfl, fun x y hx hy ↦ ?_⟩
  rw [picture, pixel?_drawing .bgra _ (by omega) (by omega)]
  exact congrArg some (outcome.samplesOf_pixels x y)

/-- What the script means to a request where the layout follows at once. Every script has the empty
success where a bitmap of the picture cannot be had. Where it can, only six failures have it; any
other script has a picture of the size that it has without a script, which shows what the decisive
outcomes say. Assumes: a configuration that is accepted; a scenario whose sizes make sense together
and whose frame is not cut to less than it begins with; a window and a document. -/
theorem simulateScreenshot_script {config : Config} (hvalid : config.validate = .ok ())
    {scenario : Scenario} (hlimited : scenario.Limited) (hready : scenario.Ready)
    (hlag : scenario.layoutLag = 0) :
    ∃ response, simulateScreenshot config.capture scenario = .ok response ∧
      (¬ (scenario.pictured config.capture).Granted → response = .success "") ∧
      ((scenario.pictured config.capture).Granted →
        (∃ bare page, simulateScreenshot config.capture { scenario with paint := [] } = .ok bare ∧
          bare.picture? = some page ∧ page.Depicts (scenario.pictured config.capture) .painted) ∧
        (response = .success "" ↔ upcoming 6 scenario.paint = List.replicate 6 .fail) ∧
        (upcoming 6 scenario.paint ≠ List.replicate 6 .fail →
          ∃ image shown, response.status = .success ∧ response.picture? = some image ∧
            image.Depicts (scenario.pictured config.capture) shown ∧
            (2 ≤ scenario.sampleCount config.capture →
              shown = if .painted ∈ decisive scenario.paint then .painted else .blank) ∧
            (scenario.sampleCount config.capture < 2 →
              ((decisive scenario.paint).filter (· ≠ .fail)).getLast? = some shown))) := by
  have hallowed := Config.allowed_of_validate hvalid
  have hdrawable := hlimited.one_le_pictured hallowed
  have hpicture := fun outcome : PaintOutcome ↦
    picture?_answer (outcome.picture_wellFormed hdrawable.1)
  rw [simulateScreenshot_eq_of_limited hlimited hallowed hlag hready]
  refine ⟨_, rfl, fun hrefused ↦ ?_, fun hgranted ↦ ⟨?_, ?_⟩⟩
  · exact Size.answered_of_refused _ hrefused captureAttempts scenario.paint
  · refine ⟨_, _, ?_, hpicture .painted, PaintOutcome.painted.depicts_picture hdrawable⟩
    rw [simulateScreenshot_eq_of_limited (hlimited.with_paint []) hallowed hlag { hready with },
      scenario.pictured_with_paint, Size.answered_nil hgranted]
  · rw [Size.answered_eq hgranted, hlimited.tells_sample hallowed]
    have hnone := @shownAfter_decisive_eq_none_iff
      (decide (2 ≤ scenario.sampleCount config.capture)) scenario.paint
    cases hshown : shownAfter (decide (2 ≤ scenario.sampleCount config.capture))
        (decisive scenario.paint) with
    | none =>
      have hfails := hnone.mp hshown
      exact ⟨iff_of_true rfl hfails, fun hsome ↦ absurd hfails hsome⟩
    | some shown =>
      have hsome := mt hnone.mpr (hshown ▸ nofun)
      refine ⟨iff_of_false (fun hempty ↦ ?_) hsome, fun _ ↦ ⟨_, shown, rfl, hpicture shown,
        shown.depicts_picture hdrawable, fun htwo ↦ ?_, fun hone ↦ ?_⟩⟩
      · exact value?_answer_ne _ (congrArg Response.value? hempty)
      · rw [decide_eq_true htwo] at hshown
        exact shown_of_tells hshown
      · rw [decide_eq_false (Nat.not_le.mpr hone), shownAfter_false] at hshown
        exact hshown

/-- A maximized window with room for one more row, and a script whose second half decides. -/
def Scenario.cramped : Scenario where
  window := ⟨4, 4⟩
  chrome := ⟨0, 0⟩
  clientInsets := ⟨1, 1⟩
  content := ⟨3, 9⟩
  maximized := true
  maxWindow := some ⟨4, 5⟩
  paint := [.fail, .fail, .fail, .painted, .blank, .fail, .painted]

/-- The law for a sample of one pixel: the second attempt draws the page, but the blank drawing
behind it counts. -/
theorem simulateScreenshot_script_cramped :
    ∃ response image, simulateScreenshot { sampleInset := 2, scrollbarRetention := 0 }
        Scenario.cramped = .ok response ∧
      response.picture? = some image ∧ image.Depicts ⟨3, 4⟩ .blank := by
  have hvalid : ({ capture := { sampleInset := 2, scrollbarRetention := 0 } } : Config).validate =
      .ok () := rfl
  have hlimited : Scenario.cramped.Limited := by
    refine ⟨⟨?_, ?_, ?_, nofun, rfl⟩, ?_⟩
    · constructor <;> decide
    · constructor <;> decide
    · constructor <;> decide
    · rintro _ ⟨rfl⟩
      decide
  obtain ⟨response, hresponse, -, hlaw⟩ :=
    simulateScreenshot_script hvalid hlimited ⟨rfl, rfl, rfl, rfl⟩ rfl
  obtain ⟨-, -, hdrawn⟩ := hlaw (by decide)
  obtain ⟨image, shown, -, himage, hdepicts, -, hlast⟩ := hdrawn (by decide)
  obtain rfl : PaintOutcome.blank = shown := Option.some.inj (hlast (by decide))
  have hsize :
      Scenario.cramped.pictured { sampleInset := 2, scrollbarRetention := 0 } = ⟨3, 4⟩ := by
    decide
  exact ⟨response, image, hresponse, himage, hsize ▸ hdepicts⟩

/-! ### Views without a bitmap -/

/-- A window as large as windows may be, with nothing around its client area. -/
def Scenario.vast : Scenario where
  window := ⟨2147418113, 2147418113⟩
  chrome := ⟨0, 0⟩
  clientInsets := ⟨0, 0⟩

/-- Drawings that succeed do not make a picture: the bitmap for it would have more bytes than can be
addressed. -/
theorem simulateScreenshot_vast :
    ({} : Config).validate = .ok () ∧ Scenario.vast.Limited ∧ Scenario.vast.Ready ∧
      Scenario.vast.layoutLag = 0 ∧
      ¬ (simulateScreenshot ({} : Config).capture Scenario.vast = .ok (.success "") ↔
        upcoming 6 Scenario.vast.paint = List.replicate 6 .fail) := by
  have hvalid : ({} : Config).validate = .ok () := rfl
  have hlimited : Scenario.vast.Limited := by
    refine ⟨⟨?_, ?_, ?_, nofun, rfl⟩, nofun⟩ <;> constructor <;> decide
  have hready : Scenario.vast.Ready := ⟨rfl, rfl, rfl, rfl⟩
  have hrefused : ¬ (Scenario.vast.pictured ({} : Config).capture).Granted := by decide
  have hempty : simulateScreenshot ({} : Config).capture Scenario.vast = .ok (.success "") := by
    rw [simulateScreenshot_eq_of_limited hlimited (Config.allowed_of_validate hvalid) rfl hready,
      Size.answered_of_refused _ hrefused]
  exact ⟨hvalid, hlimited, hready, rfl, fun hlaw ↦ absurd (hlaw.mp hempty) (by decide)⟩

end PageCapture
