import PageCapture.Proofs.Browser.Request

/-!
# Second attempts

When the drawings of a first attempt all fail, a second attempt draws the view anew. This module
compares its picture with the one that the first attempt would have given.

The two attempts differ in the client area that they begin with. Putting the frame back is a resize,
and a layout that lags by one recalculation is not brought up to it: where the first attempt has
grown the frame, the second reads the client area of the grown frame as if it were that of the old
one (`Scenario.secondClient`). It then sees thinner scroll bars or none, plans a smaller viewport,
and its picture is short of what the insets take (`toInt_drawnSize_secondClient`, and
`simulateScreenshot_retry_lagging` for the answers).
`Scenario.Repeats` is the condition under which the second picture is the first one nevertheless,
and `simulateScreenshot_retry_iff` says that the answers are the same under exactly this condition.
-/

set_option autoImplicit false
set_option relaxedAutoImplicit false

namespace PageCapture

namespace Scenario

variable (scenario : Scenario) (options : CaptureOptions)

/-- The size of the view that is drawn when the layout shows a client area. -/
def drawnSize (client : Size) : Size :=
  if scenario.grows options client then scenario.targetClient options client else client

/-- The outcome that is shown when the layout shows a client area. -/
def shown (client : Size) (script : List PaintOutcome) : Option PaintOutcome :=
  ((scenario.drawnSize options client).drawn (options.sample client) script).1

/-- The client area that a second attempt begins with. -/
def secondClient : Size :=
  if scenario.layoutLag = 0 then scenario.client else scenario.drawnSize options scenario.client

/-- A second attempt draws what a first one would. -/
structure Repeats (script : List PaintOutcome) : Prop where
  size : scenario.drawnSize options (scenario.secondClient options) =
    scenario.drawnSize options scenario.client
  outcome : scenario.shown options (scenario.secondClient options) script =
    scenario.shown options scenario.client script

variable {scenario options}

theorem repeats_iff {script : List PaintOutcome} :
    scenario.Repeats options script ↔
      scenario.drawnSize options (scenario.secondClient options) =
          scenario.drawnSize options scenario.client ∧
        scenario.shown options (scenario.secondClient options) script =
          scenario.shown options scenario.client script :=
  ⟨fun hrepeats ↦ ⟨hrepeats.size, hrepeats.outcome⟩, fun hsame ↦ ⟨hsame.1, hsame.2⟩⟩

instance {script : List PaintOutcome} : Decidable (scenario.Repeats options script) :=
  decidable_of_iff _ repeats_iff.symm

/-- A frame that stays leaves the client area as it is. -/
theorem secondClient_of_still (hstill : scenario.grows options scenario.client = false) :
    scenario.secondClient options = scenario.client := by
  rw [secondClient, drawnSize, hstill]
  exact ite_self _

/-- An attempt that begins with the same client area is repeated. -/
theorem repeats_of_same (hsame : scenario.secondClient options = scenario.client)
    (script : List PaintOutcome) : scenario.Repeats options script where
  size := by rw [hsame]
  outcome := by rw [hsame]

/-- So an attempt is repeated where the layout follows at once. -/
theorem repeats_of_synced (hsynced : scenario.layoutLag = 0) (script : List PaintOutcome) :
    scenario.Repeats options script :=
  repeats_of_same (if_pos hsynced) script

end Scenario

/-! ### Attempts within one recalculation -/

section Prompt

variable {scenario : Scenario} {options : CaptureOptions} (hregular : scenario.Regular)
  (hallowed : options.Allowed) (hlag : scenario.layoutLag ≤ 1) {scene : Scene}
  (hopens : SimulatedBrowser.Opens scenario scene)

include hregular hallowed hlag hopens

/-- The size that an attempt arrives at. -/
theorem SimulatedBrowser.Opens.resolved_fst :
    (scene.resolved scenario options).1 =
      scenario.drawnSize options (scene.client scenario) := by
  unfold Scenario.drawnSize
  cases hgrows : scenario.grows options (scene.client scenario) with
  | false => rw [resolved_of_still hgrows, if_neg Bool.false_ne_true]
  | true => rw [hopens.resolved_of_prompt hregular hallowed hgrows hlag, if_pos rfl]

theorem SimulatedBrowser.Opens.one_le_drawnSize :
    1 ≤ (scenario.drawnSize options (scene.client scenario)).width.toInt ∧
      1 ≤ (scenario.drawnSize options (scene.client scenario)).height.toInt := by
  rw [← hopens.resolved_fst hregular hallowed hlag]
  exact hopens.one_le_resolved hregular hallowed

/-- What the drawing of an attempt comes to. -/
theorem SimulatedBrowser.Opens.outcome_eq :
    scene.outcome scenario options = (scenario.drawnSize options (scene.client scenario)).drawn
      (options.sample (scene.client scenario)) scene.paint := by
  rw [Scene.outcome, hopens.resolved_fst hregular hallowed hlag]

/-- An attempt that shows an outcome answers the request. -/
theorem SimulatedBrowser.Opens.answered_of_shown {outcome : PaintOutcome}
    (hshown : scenario.shown options (scene.client scenario) scene.paint = some outcome)
    (attempts : Nat) :
    scene.answered scenario options (attempts + 1) =
      answer (outcome.picture (scenario.drawnSize options (scene.client scenario))) := by
  rw [Scene.answered, hopens.outcome_eq hregular hallowed hlag,
    hopens.resolved_fst hregular hallowed hlag, ← Scenario.shown, hshown]
  rfl

/-- An attempt that shows nothing leaves the request to the next one. -/
theorem SimulatedBrowser.Opens.answered_of_failed
    (hshown : scenario.shown options (scene.client scenario) scene.paint = none)
    (attempts : Nat) :
    scene.answered scenario options (attempts + 1) =
      (scene.next scenario options).answered scenario options attempts := by
  rw [Scene.answered, hopens.outcome_eq hregular hallowed hlag, ← Scenario.shown, hshown]
  rfl

/-- The second attempt begins with the second client area. -/
theorem SimulatedBrowser.Opens.client_second (hfirst : scene.client scenario = scenario.client) :
    (scene.next scenario options).client scenario = scenario.secondClient options := by
  rw [hopens.client_next hregular hallowed hlag, hopens.resolved_fst hregular hallowed hlag, hfirst,
    Scenario.secondClient]

end Prompt

/-! ### Bitmaps that can be had -/

section Granted

variable {scenario : Scenario} {options : CaptureOptions} (hregular : scenario.Regular)
  (hallowed : options.Allowed)

include hregular hallowed

/-- The bitmap of a view that has grown can be had: the side that grows is within the limit. -/
theorem Scenario.Regular.granted_of_grows {client : Size}
    (hgrows : scenario.grows options client = true) :
    (scenario.targetClient options client).Granted := by
  obtain ⟨hwidth, hheight⟩ := hregular.toInt_targetClient client hallowed
  obtain ⟨hinsetsWide, hinsetsHigh⟩ := hregular.insets_nonneg
  have hviewWide := Int32.toInt_lt (scenario.targetView options client).width
  have hviewHigh := Int32.toInt_lt (scenario.targetView options client).height
  have hlimit := hallowed.le_greatest
  have hretention : 0 ≤ (scenario.retention options client).toInt :=
    Scenario.retention_nonneg client hallowed
  rw [Scenario.grows, Bool.or_eq_true_iff, Scenario.growsWide, Scenario.growsHigh,
    decide_eq_true_iff, decide_eq_true_iff] at hgrows
  have hbelow : ∀ wide high small large : Nat, wide ≤ small → high ≤ large →
      small * large < 2305843009213693952 →
      wide * Bitmap.pixelSize * high < 9223372036854775808 := by
    intro wide high small large hwide hhigh hproduct
    have hless := Nat.mul_le_mul hwide hhigh
    rw [Bitmap.pixelSize, Nat.mul_right_comm]
    omega
  rcases hgrows with hwide | hhigh
  · have hcut := targetLength_le scenario.view.width.toInt client.width.toInt
      (scenario.scroll client).width.toInt options.maxDimension.toInt (Int.le_refl 0)
    rw [← hregular.toInt_targetView_width client hallowed] at hcut
    exact hbelow _ _ 65534 2147483647 (by omega) (by omega) (by decide)
  · have hcut := targetLength_le scenario.view.height.toInt client.height.toInt
      (scenario.scroll client).height.toInt options.maxDimension.toInt hretention
    rw [← hregular.toInt_targetView_height client hallowed] at hcut
    exact hbelow _ _ 2147483647 65534 (by omega) (by omega) (by decide)

/-- A second attempt has a bitmap where the first has one. -/
theorem Scenario.Regular.granted_second
    (hgranted : (scenario.drawnSize options scenario.client).Granted) :
    (scenario.drawnSize options (scenario.secondClient options)).Granted := by
  cases hgrows : scenario.grows options (scenario.secondClient options) with
  | true =>
    rw [Scenario.drawnSize, if_pos hgrows]
    exact hregular.granted_of_grows hallowed hgrows
  | false =>
    rw [Scenario.drawnSize, hgrows, if_neg Bool.false_ne_true, Scenario.secondClient]
    split
    · rename_i hnone
      rw [Scenario.secondClient, if_pos hnone] at hgrows
      rwa [Scenario.drawnSize, hgrows, if_neg Bool.false_ne_true] at hgranted
    · exact hgranted

/-- Without a bitmap the frame has not grown. -/
theorem Scenario.Regular.still_of_refused
    (hrefused : ¬ (scenario.drawnSize options scenario.client).Granted) :
    scenario.grows options scenario.client = false := by
  refine Bool.eq_false_iff.mpr fun hgrows ↦ hrefused ?_
  rw [Scenario.drawnSize, if_pos hgrows]
  exact hregular.granted_of_grows hallowed hgrows

end Granted

/-! ### Pages that are cut short -/

section Longer

variable {scenario : Scenario} {options : CaptureOptions} (hregular : scenario.Regular)
  (hallowed : options.Allowed) (hlags : scenario.layoutLag = 1)
  (hstill : scenario.growsWide options scenario.client = false)
  (hlonger : scenario.view.height.toInt + (scenario.retention options scenario.client).toInt <
    scenario.content.height.toInt)
  (hlimit : scenario.content.height.toInt + scenario.clientInsets.height.toInt ≤
    options.maxDimension.toInt)

include hregular hallowed hlags hstill hlonger hlimit

/-- A second attempt at a page that is longer than the viewport draws less of its height than the
first, by what the insets take. Assumes: a layout that lags, a width that is not resized, and a page
within the limit. -/
theorem Scenario.Regular.toInt_drawnSize_secondClient :
    (scenario.drawnSize options (scenario.secondClient options)).height.toInt =
      (scenario.drawnSize options scenario.client).height.toInt -
        scenario.clientInsets.height.toInt := by
  obtain ⟨hclientWidth, hclientHeight⟩ := hregular.toInt_client
  have hinsets := hregular.insets_nonneg.height
  have hkeeps : 0 ≤ (scenario.retention options scenario.client).toInt :=
    Scenario.retention_nonneg scenario.client hallowed
  have hfirst : (scenario.targetView options scenario.client).height.toInt =
      scenario.content.height.toInt + scenario.clientInsets.height.toInt -
        (scenario.retention options scenario.client).toInt := by
    rw [hregular.toInt_targetView_height scenario.client hallowed, Scenario.scroll, toInt_max,
      targetLength]
    omega
  have hgrows : scenario.grows options scenario.client = true := by
    rw [Scenario.grows, hstill, Bool.false_or, Scenario.growsHigh, decide_eq_true_iff]
    omega
  obtain ⟨hwidth, hheight⟩ := hregular.toInt_targetClient scenario.client hallowed
  have hbegins : scenario.secondClient options =
      scenario.targetClient options scenario.client := by
    rw [Scenario.secondClient, if_neg (by rw [hlags]; decide), Scenario.drawnSize, if_pos hgrows]
  -- The width that the second attempt begins with is the first one, and so is the retention.
  have hkept : (scenario.targetClient options scenario.client).width = scenario.client.width := by
    have hwide := (hregular.view_le_targetView scenario.client hallowed).1
    rw [Scenario.growsWide, decide_eq_false_iff_not] at hstill
    apply Int32.toInt_inj.mp
    omega
  have hretention : scenario.retention options (scenario.targetClient options scenario.client) =
      scenario.retention options scenario.client := by
    rw [Scenario.retention, Scenario.retention, hkept]
  -- The client area that it sees is no shorter than the viewport: no scroll bar is added.
  have hsecond : (scenario.targetView options
      (scenario.targetClient options scenario.client)).height.toInt =
        scenario.content.height.toInt - (scenario.retention options scenario.client).toInt := by
    rw [hregular.toInt_targetView_height _ hallowed, Scenario.scroll, toInt_max, hretention,
      targetLength]
    omega
  have hagain : scenario.grows options (scenario.targetClient options scenario.client) = true := by
    rw [Scenario.grows, Bool.or_eq_true_iff, Scenario.growsHigh, decide_eq_true_iff]
    right
    omega
  have hshort := (hregular.toInt_targetClient
    (scenario.targetClient options scenario.client) hallowed).2
  rw [hbegins, Scenario.drawnSize, if_pos hagain, Scenario.drawnSize, if_pos hgrows]
  omega

/-- So it does not repeat the first where the insets take anything. -/
theorem Scenario.Regular.not_repeats_of_longer
    (hinsets : 0 < scenario.clientInsets.height.toInt) (script : List PaintOutcome) :
    ¬ scenario.Repeats options script := by
  intro hrepeats
  have hshort := hregular.toInt_drawnSize_secondClient hallowed hlags hstill hlonger hlimit
  rw [hrepeats.size] at hshort
  omega

end Longer

/-! ### Scenarios with a script -/

/-- The scenario with another script. -/
def Scenario.scripted (scenario : Scenario) (script : List PaintOutcome) : Scenario :=
  { scenario with paint := script }

section Scripted

variable {scenario : Scenario} {options : CaptureOptions} (hregular : scenario.Regular)
  (hallowed : options.Allowed) (hlag : scenario.layoutLag ≤ 1) (hready : scenario.Ready)

include hregular hallowed hlag hready

/-- The answer to a request whose first attempt shows an outcome. -/
theorem simulateScreenshot_of_shown {script : List PaintOutcome} {outcome : PaintOutcome}
    (hshown : scenario.shown options scenario.client script = some outcome) :
    simulateScreenshot options (scenario.scripted script) =
      .ok (answer (outcome.picture (scenario.drawnSize options scenario.client))) := by
  have hscripted : (scenario.scripted script).Regular := { hregular with }
  rw [simulateScreenshot_eq hscripted hallowed { hready with }]
  exact congrArg Except.ok ((scenario.scripted script).opens_opened.answered_of_shown hscripted
    hallowed hlag hshown 1)

/-- The answer to a request whose first attempt fails at every drawing and whose second attempt
shows an outcome. -/
theorem simulateScreenshot_of_failed {script : List PaintOutcome} {outcome : PaintOutcome}
    (hgranted : (scenario.drawnSize options scenario.client).Granted)
    (hshown : scenario.shown options (scenario.secondClient options) script = some outcome) :
    simulateScreenshot options (scenario.scripted (.fail :: .fail :: .fail :: script)) =
      .ok (answer (outcome.picture
        (scenario.drawnSize options (scenario.secondClient options)))) := by
  obtain ⟨failing, hfailing⟩ : ∃ failing, scenario.scripted (.fail :: .fail :: .fail :: script) =
    failing := ⟨_, rfl⟩
  have hscripted : failing.Regular := hfailing ▸ { hregular with }
  have hreadied : failing.Ready := hfailing ▸ { hready with }
  have hprompt : failing.layoutLag ≤ 1 := hfailing ▸ hlag
  have hopens := failing.opens_opened
  have houtcome : failing.opened.outcome failing options = (none, script) := by
    rw [hopens.outcome_eq hscripted hallowed hprompt, ← hfailing]
    exact Size.drawn_failing hgranted _ script
  have hagain : failing.shown options ((failing.opened.next failing options).client failing)
      (failing.opened.next failing options).paint = some outcome := by
    rw [hopens.client_second hscripted hallowed hprompt rfl, Scene.next_paint, houtcome, ← hshown,
      ← hfailing]
    rfl
  rw [hfailing, simulateScreenshot_eq hscripted hallowed hreadied, captureAttempts,
    hopens.answered_of_failed hscripted hallowed hprompt
      (by rw [Scenario.shown, ← hopens.outcome_eq hscripted hallowed hprompt, houtcome]),
    (hopens.next hscripted hallowed).answered_of_shown hscripted hallowed hprompt hagain 0,
    hopens.client_second hscripted hallowed hprompt rfl, ← hfailing]
  rfl

/-- The answer to a request whose picture cannot be had. -/
theorem simulateScreenshot_of_refused
    (hrefused : ¬ (scenario.drawnSize options scenario.client).Granted)
    (script : List PaintOutcome) :
    simulateScreenshot options (scenario.scripted script) = .ok (.success "") := by
  obtain ⟨scripted, hscript⟩ : ∃ scripted, scenario.scripted script = scripted := ⟨_, rfl⟩
  have hscripted : scripted.Regular := hscript ▸ { hregular with }
  have hreadied : scripted.Ready := hscript ▸ { hready with }
  have hprompt : scripted.layoutLag ≤ 1 := hscript ▸ hlag
  have hnone : ¬ (scripted.drawnSize options scripted.client).Granted := hscript ▸ hrefused
  have hopens := scripted.opens_opened
  have hfirst : ∀ rest, scripted.shown options scripted.client rest = none := fun rest ↦ by
    rw [Scenario.shown, Size.drawn_of_refused _ hnone]
  have hsecond : (scripted.opened.next scripted options).client scripted = scripted.client := by
    rw [hopens.client_second hscripted hallowed hprompt rfl,
      Scenario.secondClient_of_still (hscripted.still_of_refused hallowed hnone)]
  rw [hscript, simulateScreenshot_eq hscripted hallowed hreadied, captureAttempts,
    hopens.answered_of_failed hscripted hallowed hprompt (hfirst _),
    (hopens.next hscripted hallowed).answered_of_failed hscripted hallowed hprompt
      (by rw [hsecond]; exact hfirst _)]
  rfl

end Scripted

/-! ### The law -/

/-- In a scenario that is ready, a request whose first attempt fails at every drawing is answered
with the picture of its second attempt, which is the one of a first attempt exactly when the second
repeats it. -/
theorem simulateScreenshot_failing_eq_iff {scenario : Scenario} {options : CaptureOptions}
    (hregular : scenario.Regular) (hallowed : options.Allowed) (hlag : scenario.layoutLag ≤ 1)
    (hready : scenario.Ready) {script : List PaintOutcome}
    (hscript : ¬ [.fail, .fail, .fail] <+: script) :
    simulateScreenshot options (scenario.scripted (.fail :: .fail :: .fail :: script)) =
        simulateScreenshot options (scenario.scripted script) ↔
      scenario.Repeats options script := by
  by_cases hgranted : (scenario.drawnSize options scenario.client).Granted
  · have hagain := hregular.granted_second hallowed hgranted
    obtain ⟨first, hfirst, hone⟩ :=
      Size.exists_drawn hgranted (options.sample scenario.client) hscript
    obtain ⟨second, hsecond, hother⟩ :=
      Size.exists_drawn hagain (options.sample (scenario.secondClient options)) hscript
    have hopens := scenario.opens_opened
    have hpositive : 1 ≤ (scenario.drawnSize options scenario.client).width.toInt ∧
        1 ≤ (scenario.drawnSize options scenario.client).height.toInt :=
      hopens.one_le_drawnSize hregular hallowed hlag
    have hpositiveAgain := (hopens.next hregular hallowed).one_le_drawnSize hregular hallowed hlag
    rw [hopens.client_second hregular hallowed hlag rfl] at hpositiveAgain
    rw [simulateScreenshot_of_shown hregular hallowed hlag hready hfirst,
      simulateScreenshot_of_failed hregular hallowed hlag hready hgranted hsecond,
      Except.ok.injEq]
    have hpictures := picture_eq_iff hpositiveAgain hpositive hother hone
    constructor
    · intro hsame
      obtain ⟨hsize, houtcome⟩ := hpictures.mp (answer_injective
        (second.picture_wellFormed hpositiveAgain.1) (first.picture_wellFormed hpositive.1) hsame)
      exact ⟨hsize, hsecond.trans ((congrArg some houtcome).trans hfirst.symm)⟩
    · rintro ⟨hsize, houtcome⟩
      have hshown : some second = some first := hsecond.symm.trans (houtcome.trans hfirst)
      rw [hpictures.mpr ⟨hsize, Option.some.inj hshown⟩]
  · rw [simulateScreenshot_of_refused hregular hallowed hlag hready hgranted,
      simulateScreenshot_of_refused hregular hallowed hlag hready hgranted]
    have hstill := hregular.still_of_refused hallowed hgranted
    exact iff_of_true rfl (Scenario.repeats_of_same (Scenario.secondClient_of_still hstill) script)

/-- A request whose first attempt fails at every drawing is answered like one whose first attempt
succeeds exactly when the scenario is not ready, so that neither attempt draws, or when the second
attempt repeats the first. Assumes: a configuration that is accepted; a scenario whose sizes make
sense together and whose layout follows within one recalculation; and a script that does not begin
with three failures. -/
theorem simulateScreenshot_retry_iff {config : Config} (hvalid : config.validate = .ok ())
    {scenario : Scenario} (hregular : scenario.Regular) (hlag : scenario.layoutLag ≤ 1)
    {script : List PaintOutcome} (hscript : ¬ [.fail, .fail, .fail] <+: script) :
    simulateScreenshot config.capture (scenario.scripted ([.fail, .fail, .fail] ++ script)) =
        simulateScreenshot config.capture (scenario.scripted script) ↔
      ¬ scenario.Ready ∨ scenario.Repeats config.capture script := by
  have hallowed := Config.allowed_of_validate hvalid
  by_cases hready : scenario.Ready
  · rw [or_iff_right (not_not_intro hready)]
    exact simulateScreenshot_failing_eq_iff hregular hallowed hlag hready hscript
  · refine iff_of_true ?_ (.inl hready)
    have hrefused : ∀ paint, simulateScreenshot config.capture (scenario.scripted paint) =
        .ok scenario.refusal := by
      intro paint
      have hscripted : (scenario.scripted paint).Regular := { hregular with }
      exact simulateScreenshot_of_unready hscripted (fun hready' ↦ hready { hready' with })
        config.capture
    exact (hrefused _).trans (hrefused _).symm

/-- A page of three columns and six rows, in front of a layout that lags by one recalculation. -/
def Scenario.lagging : Scenario where
  window := ⟨4, 4⟩
  chrome := ⟨0, 0⟩
  clientInsets := ⟨1, 1⟩
  content := ⟨3, 6⟩
  layoutLag := 1

/-- The page in front of a layout that follows at once. -/
def Scenario.prompt : Scenario := { Scenario.lagging with layoutLag := 0 }

/-- A first attempt at the page that fails has grown the frame by the three rows that it hides and
put it back, and where the layout follows at once the second attempt grows it again and shows the
page as the first would have. -/
theorem simulateScreenshot_retry_prompt :
    (∃ browser, SimulatedBrowser.start (Scenario.prompt.scripted [.fail, .fail, .fail]) =
        .ok browser ∧
      ((takeScreenshot SimulatedBrowser.host { sampleInset := 0, scrollbarRetention := 0 }).results
        browser).2.log.resizes = [⟨4, 7⟩, ⟨4, 4⟩, ⟨4, 7⟩, ⟨4, 4⟩]) ∧
    simulateScreenshot { sampleInset := 0, scrollbarRetention := 0 }
        (Scenario.prompt.scripted ([.fail, .fail, .fail] ++ [])) =
      simulateScreenshot { sampleInset := 0, scrollbarRetention := 0 }
        (Scenario.prompt.scripted []) := by
  have hvalid : ({ capture := { sampleInset := 0, scrollbarRetention := 0 } } : Config).validate =
    .ok () := rfl
  have hregular : Scenario.prompt.Regular :=
    { width := by constructor <;> decide
      height := by constructor <;> decide
      content := by constructor <;> decide
      restoredWindow := nofun
      maxWindow := rfl }
  refine ⟨⟨_, rfl, by decide +kernel⟩, ?_⟩
  exact (simulateScreenshot_retry_iff hvalid hregular (by decide) (by decide)).mpr
    (.inr (Scenario.repeats_of_synced rfl []))

/-- Its first attempt shows the page, and a second attempt a row less. -/
theorem simulateScreenshot_retry_lagging :
    simulateScreenshot { sampleInset := 0, scrollbarRetention := 0 }
        (Scenario.lagging.scripted []) = .ok (answer (PaintOutcome.painted.picture ⟨3, 6⟩)) ∧
      simulateScreenshot { sampleInset := 0, scrollbarRetention := 0 }
        (Scenario.lagging.scripted [.fail, .fail, .fail]) =
          .ok (answer (PaintOutcome.painted.picture ⟨3, 5⟩)) ∧
      simulateScreenshot { sampleInset := 0, scrollbarRetention := 0 }
          (Scenario.lagging.scripted [.fail, .fail, .fail]) ≠
        simulateScreenshot { sampleInset := 0, scrollbarRetention := 0 }
          (Scenario.lagging.scripted []) := by
  have hallowed : ({ sampleInset := 0, scrollbarRetention := 0 } : CaptureOptions).Allowed := by
    constructor <;> decide
  have hregular : Scenario.lagging.Regular :=
    { width := by constructor <;> decide
      height := by constructor <;> decide
      content := by constructor <;> decide
      restoredWindow := nofun
      maxWindow := rfl }
  have hlag : Scenario.lagging.layoutLag ≤ 1 := by decide
  have hready : Scenario.lagging.Ready := ⟨rfl, rfl, rfl, rfl⟩
  refine ⟨simulateScreenshot_of_shown hregular hallowed hlag hready (by decide),
    simulateScreenshot_of_failed hregular hallowed hlag hready (by decide) (by decide), ?_⟩
  have hdiffers : ¬ Scenario.lagging.Repeats { sampleInset := 0, scrollbarRetention := 0 } [] :=
    hregular.not_repeats_of_longer hallowed rfl (by decide) (by decide) (by decide) (by decide) []
  exact mt (simulateScreenshot_failing_eq_iff hregular hallowed hlag hready (by decide)).mp hdiffers

end PageCapture
