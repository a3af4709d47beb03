import PageCapture.Proofs.Form.Scenario

/-!
# Forms in texts

Scenarios and configurations as JSON texts. Each is read back from its text; and from the text of an
edit of it, however that is laid out, it is read with the defaults of what was left out
(`Form.ofJson?_edits`). Components of sizes have no defaults, so that an edit which leaves one out
makes its text unreadable.
-/

set_option autoImplicit false
set_option relaxedAutoImplicit false

namespace PageCapture

open Datum

namespace Form

variable {α : Type} [Form α]

/-- The JSON text of a value. -/
def toJson (value : α) : String := Json.write (write value)

/-- The value in a JSON text. -/
def ofJson? (text : String) : Option α := (Json.read? text).bind (read? Dialect.json)

theorem ofJson?_of_read? {text : String} {datum : Datum} (htext : Json.read? text = some datum) :
    (ofJson? text : Option α) = read? Dialect.json datum := by
  rw [ofJson?, htext, Option.bind_some]

/-- Scenarios and configurations are read back from their JSON texts, and from every text of an edit
of these: one in which fields or sections are left out, put in another order and joined by members
of other names. What is read then has the defaults of the fields that were left out, and is
otherwise the same. Only a size must keep both of its components: it is not read without them, and
neither is a scenario that has such a size. -/
theorem ofJson?_edits :
    (∀ scenario : Scenario, ofJson? (toJson scenario) = some scenario) ∧
      (∀ config : Config, ofJson? (toJson config) = some config) ∧
      (∀ (scenario : Scenario) (deleted : String → Bool) (deletedIn : String → String → Bool)
        (edited : Datum) (text : String),
        EditedWithin deleted deletedIn (write scenario) edited → Json.read? text = some edited →
          (scenario.SizesComplete deleted deletedIn →
            ofJson? text = some (scenario.defaulted deleted)) ∧
          (¬ scenario.SizesComplete deleted deletedIn → (ofJson? text : Option Scenario) = none)) ∧
      (∀ (config : Config) (deleted : String → Bool) (deletedIn : String → String → Bool)
        (edited : Datum) (text : String),
        EditedWithin deleted deletedIn (write config) edited → Json.read? text = some edited →
          ofJson? text = some (config.defaulted deleted deletedIn)) ∧
      ∀ (size : Size) (deleted : String → Bool) (edited : Datum) (text : String),
        Edited deleted (fun _ ↦ Eq) (write size) edited → Json.read? text = some edited →
          (ofJson? text : Option Size) =
            if deleted "width" || deleted "height" then none else some size := by
  refine ⟨fun scenario ↦ ?_, fun config ↦ ?_, fun scenario deleted deletedIn edited text hedited
    htext ↦ ?_, fun config deleted deletedIn edited text hedited htext ↦ ?_,
    fun size deleted edited text hedited htext ↦ ?_⟩
  · rw [toJson, ofJson?_of_read? (Json.read?_write scenario.write_plain), Scenario.read?_write]
  · rw [toJson, ofJson?_of_read? (Json.read?_write config.write_plain), Config.read?_write]
  · rw [ofJson?_of_read? htext]
    exact ⟨fun hcomplete ↦ Scenario.read?_edited hcomplete hedited,
      fun hincomplete ↦ Scenario.read?_eq_none hincomplete hedited⟩
  · rw [ofJson?_of_read? htext, Config.read?_edited Dialect.json hedited]
  · rw [ofJson?_of_read? htext, Size.read?_edited Dialect.json hedited]

/-- The law for a configuration of which a section and a field are left out, with two sections in
the other order and a member more; and for a scenario that has only its window left, with and
without its width. -/
theorem ofJson?_edits_reordered :
    ofJson? (Json.write (.record [("output", .record [("directory", .text "out")]), ("capture",
        .record [("max_dimension", .integer 5), ("scrollbar_retention_px", .integer 1)]),
        ("note", .null)])) =
      some ({ capture := { maxDimension := 5, scrollbarRetention := 1 },
              output := { directory := "out" } } : Config) ∧
    ofJson? (Json.write (.record [("window", .record [("width", .integer 5),
        ("height", .integer 7)])])) = some ({ window := ⟨5, 7⟩ } : Scenario) ∧
    (ofJson? (Json.write (.record [("window", .record [("height", .integer 7)])])) :
      Option Scenario) = none := by
  have hconfig : EditedWithin (· == "window")
      (fun name field ↦ name == "capture" && field == "sample_inset")
      (write (Config.mk ⟨5, 3, 1⟩ ⟨"Chrome"⟩ ⟨"out"⟩))
      (.record [("output", .record [("directory", .text "out")]), ("capture", .record
        [("max_dimension", .integer 5), ("scrollbar_retention_px", .integer 1)]),
        ("note", .null)]) := by
    have hcapture : Edited (fun field ↦ "capture" == "capture" && field == "sample_inset")
        (fun _ ↦ Eq) (write (CaptureOptions.mk 5 3 1)) (.record
          [("max_dimension", .integer 5), ("scrollbar_retention_px", .integer 1)]) :=
      .of_kept (.keep rfl rfl (.delete rfl (.keep rfl rfl .nil)))
    have houtput : Edited (fun field ↦ "output" == "capture" && field == "sample_inset")
        (fun _ ↦ Eq) (write (OutputConfig.mk "out")) (.record [("directory", .text "out")]) :=
      .of_kept (.keep rfl rfl .nil)
    refine .record (.keep rfl hcapture (.delete rfl (.keep rfl houtput .nil))) ?_ (.swap _ _ _)
    simp
  have hwindow : ∀ (deletedIn : String → String → Bool) (edited : Datum),
      Edited (deletedIn "window") (fun _ ↦ Eq) (write (Size.mk 5 7)) edited →
        EditedWithin (· != "window") deletedIn (write ({ window := ⟨5, 7⟩ } : Scenario))
          (.record [("window", edited)]) := by
    intro deletedIn edited hedited
    refine .of_kept (.keep rfl hedited ?_)
    repeat' refine .delete rfl ?_
    exact .nil
  have hheight : Edited (· == "width") (fun _ ↦ Eq) (write (Size.mk 5 7))
      (.record [("height", .integer 7)]) := .of_kept (.delete rfl (.keep rfl rfl .nil))
  have hlost : ¬ ({ window := ⟨5, 7⟩ } : Scenario).SizesComplete (· != "window")
      (fun _ ↦ (· == "width")) := by
    intro hcomplete
    cases (hcomplete ("window", some ⟨5, 7⟩) (.head _) rfl _ rfl).1
  obtain ⟨-, -, hscenarios, hconfigs, -⟩ := ofJson?_edits
  exact ⟨hconfigs _ _ _ _ _ hconfig (Json.read?_write (by simp)),
    (hscenarios _ _ _ _ _ (hwindow (fun _ _ ↦ false) _ (.refl (fun _ _ ↦ rfl) _))
      (Json.read?_write (by simp [Size.write_plain]))).1 fun _ _ _ _ _ ↦ ⟨rfl, rfl⟩,
    (hscenarios _ _ _ _ _ (hwindow _ _ hheight) (Json.read?_write (by simp))).2 hlost⟩

end Form

end PageCapture
