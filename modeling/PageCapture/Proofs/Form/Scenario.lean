import PageCapture.Proofs.Form.Section

/-!
# Scenarios after an edit

A scenario has the default of every field that was left out and keeps the others as they are
(`Scenario.read?_edited`). Its sizes have no defaults for their components: if one that stays has
lost a component, no scenario is read (`Scenario.read?_eq_none`).
-/

set_option autoImplicit false
set_option relaxedAutoImplicit false

namespace PageCapture

open Datum

variable {deleted : String → Bool} {deletedIn : String → String → Bool} {dialect : Dialect}

/-! ### Fields that stay -/

/-- A field that is no record has its default or is as it was. -/
theorem Datum.Outcome.scalar? {α : Type} [Form α] [ScalarForm α] {name : String} {value : α}
    {found : Option Datum}
    (hfound : Outcome deleted (fun name ↦ Edited (deletedIn name) fun _ ↦ Eq) name
      (Form.write value) found) (otherwise : α) :
    Form.default? dialect otherwise found = some (if deleted name then otherwise else value) :=
  hfound.default? (fun _ _ hpart ↦ ScalarForm.read?_edited dialect hpart) otherwise

/-- A size with both of its components is read. -/
theorem Size.read?_complete {size : Size} {edited : Datum}
    (hcomplete : deleted "width" = false ∧ deleted "height" = false)
    (hedited : Edited deleted (fun _ ↦ Eq) (Form.write size) edited) :
    Form.read? dialect edited = some size := by
  rw [Size.read?_edited dialect hedited, hcomplete.1, hcomplete.2]
  rfl

/-- What is read for a size has both of its components. -/
theorem Size.complete_of_read? {size value : Size} {edited : Datum}
    (hedited : Edited deleted (fun _ ↦ Eq) (Form.write size) edited)
    (hread : Form.read? dialect edited = some value) :
    deleted "width" = false ∧ deleted "height" = false := by
  rw [Size.read?_edited dialect hedited] at hread
  split_ifs at hread with hdeleted
  exact Bool.or_eq_false_iff.mp (Bool.eq_false_iff.mpr hdeleted)

/-- A size that need not be given is read as a size, unless it says that there is none. -/
theorem Size.read?_option (datum : Datum) (hdatum : datum ≠ .null) :
    (Form.read? dialect datum : Option (Option Size)) = (Form.read? dialect datum).map some := by
  cases datum <;> first | exact absurd rfl hdatum | rfl

theorem Size.ne_null_of_edited {size : Size} {edited : Datum}
    (hedited : Edited deleted (fun _ ↦ Eq) (Form.write size) edited) : edited ≠ .null := by
  cases hedited <;> exact nofun

theorem Size.read?_option_complete {size? : Option Size} {edited : Datum}
    (hcomplete : ∀ size, size? = some size →
      deleted "width" = false ∧ deleted "height" = false)
    (hedited : Edited deleted (fun _ ↦ Eq) (Form.write size?) edited) :
    Form.read? dialect edited = some size? := by
  cases size? with
  | none =>
    rw [hedited.eq_of_ne_record nofun]
    rfl
  | some size =>
    change Edited deleted (fun _ ↦ Eq) (Form.write size) edited at hedited
    rw [Size.read?_option edited (Size.ne_null_of_edited hedited),
      Size.read?_complete (hcomplete size rfl) hedited]
    rfl

/-- A size that stays and can be read has both of its components. -/
theorem Datum.Outcome.complete {name : String} {size otherwise value : Size} {found : Option Datum}
    (hfound : Outcome deleted (fun name ↦ Edited (deletedIn name) fun _ ↦ Eq) name
      (Form.write size) found)
    (hread : Form.default? dialect otherwise found = some value) (hname : deleted name = false) :
    deletedIn name "width" = false ∧ deletedIn name "height" = false := by
  obtain ⟨edited, hedited, hread⟩ := hfound.exists_read? hname hread
  exact Size.complete_of_read? hedited hread

theorem Datum.Outcome.complete_option {name : String} {size : Size}
    {otherwise value : Option Size} {found : Option Datum}
    (hfound : Outcome deleted (fun name ↦ Edited (deletedIn name) fun _ ↦ Eq) name
      (Form.write size) found)
    (hread : Form.default? dialect otherwise found = some value) (hname : deleted name = false) :
    deletedIn name "width" = false ∧ deletedIn name "height" = false := by
  obtain ⟨edited, hedited, hread⟩ := hfound.exists_read? hname hread
  rw [Size.read?_option edited (Size.ne_null_of_edited hedited), Option.map_eq_some_iff] at hread
  obtain ⟨value, hread, -⟩ := hread
  exact Size.complete_of_read? hedited hread

namespace Scenario

/-- A scenario with the defaults of some fields. -/
def defaulted (scenario : Scenario) (deleted : String → Bool) : Scenario where
  window := if deleted "window" then ({} : Scenario).window else scenario.window
  chrome := if deleted "chrome" then ({} : Scenario).chrome else scenario.chrome
  clientInsets :=
    if deleted "client_insets" then ({} : Scenario).clientInsets else scenario.clientInsets
  content := if deleted "content" then ({} : Scenario).content else scenario.content
  standardsMode :=
    if deleted "standards_mode" then ({} : Scenario).standardsMode else scenario.standardsMode
  maximized := if deleted "maximized" then ({} : Scenario).maximized else scenario.maximized
  restoredWindow :=
    if deleted "restored_window" then ({} : Scenario).restoredWindow else scenario.restoredWindow
  maxWindow := if deleted "max_window" then ({} : Scenario).maxWindow else scenario.maxWindow
  layoutLag := if deleted "layout_lag" then ({} : Scenario).layoutLag else scenario.layoutLag
  paint := if deleted "paint" then ({} : Scenario).paint else scenario.paint
  hasWindow := if deleted "has_window" then ({} : Scenario).hasWindow else scenario.hasWindow
  hasDocument :=
    if deleted "has_document" then ({} : Scenario).hasDocument else scenario.hasDocument
  hasCanvas := if deleted "has_canvas" then ({} : Scenario).hasCanvas else scenario.hasCanvas
  windowSizeFails :=
    if deleted "window_size_fails" then ({} : Scenario).windowSizeFails
    else scenario.windowSizeFails

/-- The fields of a scenario that are sizes. -/
def sizes (scenario : Scenario) : List (String × Option Size) :=
  [("window", some scenario.window), ("chrome", some scenario.chrome),
    ("client_insets", some scenario.clientInsets), ("content", some scenario.content),
    ("restored_window", scenario.restoredWindow), ("max_window", scenario.maxWindow)]

/-- Every size that stays has both of its components. -/
def SizesComplete (scenario : Scenario) (deleted : String → Bool)
    (deletedIn : String → String → Bool) : Prop :=
  ∀ field ∈ scenario.sizes, deleted field.1 = false → ∀ size, field.2 = some size →
    deletedIn field.1 "width" = false ∧ deletedIn field.1 "height" = false

/-- The scenario in the data that are given for its fields. -/
def ofFields? (dialect : Dialect) (found : String → Option Datum) : Option Scenario := do
  let otherwise : Scenario := {}
  return {
    window := ← Form.default? dialect otherwise.window (found "window")
    chrome := ← Form.default? dialect otherwise.chrome (found "chrome")
    clientInsets := ← Form.default? dialect otherwise.clientInsets (found "client_insets")
    content := ← Form.default? dialect otherwise.content (found "content")
    standardsMode := ← Form.default? dialect otherwise.standardsMode (found "standards_mode")
    maximized := ← Form.default? dialect otherwise.maximized (found "maximized")
    restoredWindow := ← Form.default? dialect otherwise.restoredWindow (found "restored_window")
    maxWindow := ← Form.default? dialect otherwise.maxWindow (found "max_window")
    layoutLag := ← Form.default? dialect otherwise.layoutLag (found "layout_lag")
    paint := ← Form.default? dialect otherwise.paint (found "paint")
    hasWindow := ← Form.default? dialect otherwise.hasWindow (found "has_window")
    hasDocument := ← Form.default? dialect otherwise.hasDocument (found "has_document")
    hasCanvas := ← Form.default? dialect otherwise.hasCanvas (found "has_canvas")
    windowSizeFails := ←
      Form.default? dialect otherwise.windowSizeFails (found "window_size_fails") }

theorem read?_eq_ofFields? {datum : Datum} {found : String → Option Datum}
    (hfields : datum.fields? dialect fieldNames = some (fieldNames.map found)) :
    Form.read? dialect datum = ofFields? dialect found := by
  change (datum.fields? dialect fieldNames).bind _ = _
  rw [hfields, Option.bind_some]
  rfl

/-- If its sizes are complete, a scenario is read after any edit, with the defaults of the fields
that were left out. -/
theorem read?_edited {scenario : Scenario} {edited : Datum}
    (hcomplete : scenario.SizesComplete deleted deletedIn)
    (hedited : EditedWithin deleted deletedIn (Form.write scenario) edited) :
    Form.read? dialect edited = some (scenario.defaulted deleted) := by
  obtain ⟨found, hfields, hfound⟩ := Edited.fields? hedited
    (show fieldNames.Nodup by decide) dialect
  rw [read?_eq_ofFields? hfields]
  simp only [List.forall_mem_cons] at hfound
  obtain ⟨hwindow, hchrome, hinsets, hcontent, hstandards, hmaximized, hrestored, hmax, hlag,
    hpaint, hhasWindow, hhasDocument, hhasCanvas, hfails, -⟩ := hfound
  simp only [SizesComplete, sizes, List.forall_mem_cons] at hcomplete
  obtain ⟨hofWindow, hofChrome, hofInsets, hofContent, hofRestored, hofMax, -⟩ := hcomplete
  simp only [ofFields?,
    hwindow.default? fun h _ hpart ↦ Size.read?_complete (hofWindow h _ rfl) hpart,
    hchrome.default? fun h _ hpart ↦ Size.read?_complete (hofChrome h _ rfl) hpart,
    hinsets.default? fun h _ hpart ↦ Size.read?_complete (hofInsets h _ rfl) hpart,
    hcontent.default? fun h _ hpart ↦ Size.read?_complete (hofContent h _ rfl) hpart,
    hstandards.scalar?, hmaximized.scalar?,
    hrestored.default? fun h _ hpart ↦ Size.read?_option_complete (hofRestored h) hpart,
    hmax.default? fun h _ hpart ↦ Size.read?_option_complete (hofMax h) hpart,
    hlag.scalar?, hpaint.scalar?, hhasWindow.scalar?, hhasDocument.scalar?, hhasCanvas.scalar?,
    hfails.scalar?]
  rfl

/-- If a scenario is read, its sizes are complete. -/
theorem sizesComplete_of_read? {scenario value : Scenario} {edited : Datum}
    (hedited : EditedWithin deleted deletedIn (Form.write scenario) edited)
    (hread : Form.read? dialect edited = some value) :
    scenario.SizesComplete deleted deletedIn := by
  obtain ⟨found, hfields, hfound⟩ := Edited.fields? hedited
    (show fieldNames.Nodup by decide) dialect
  rw [read?_eq_ofFields? hfields] at hread
  obtain ⟨_, hwindowRead, hread⟩ := Option.bind_eq_some_iff.mp hread
  obtain ⟨_, hchromeRead, hread⟩ := Option.bind_eq_some_iff.mp hread
  obtain ⟨_, hinsetsRead, hread⟩ := Option.bind_eq_some_iff.mp hread
  obtain ⟨_, hcontentRead, hread⟩ := Option.bind_eq_some_iff.mp hread
  obtain ⟨_, -, hread⟩ := Option.bind_eq_some_iff.mp hread
  obtain ⟨_, -, hread⟩ := Option.bind_eq_some_iff.mp hread
  obtain ⟨_, hrestoredRead, hread⟩ := Option.bind_eq_some_iff.mp hread
  obtain ⟨_, hmaxRead, -⟩ := Option.bind_eq_some_iff.mp hread
  simp only [List.forall_mem_cons] at hfound
  obtain ⟨hwindow, hchrome, hinsets, hcontent, -, -, hrestored, hmax, -⟩ := hfound
  simp only [SizesComplete, sizes, List.forall_mem_cons]
  refine ⟨fun hname _ _ ↦ hwindow.complete hwindowRead hname,
    fun hname _ _ ↦ hchrome.complete hchromeRead hname,
    fun hname _ _ ↦ hinsets.complete hinsetsRead hname,
    fun hname _ _ ↦ hcontent.complete hcontentRead hname,
    fun hname size hsize ↦ ?_, fun hname size hsize ↦ ?_, nofun⟩
  · rw [hsize] at hrestored
    exact hrestored.complete_option hrestoredRead hname
  · rw [hsize] at hmax
    exact hmax.complete_option hmaxRead hname

/-- No scenario is read if a size that stays has lost a component. -/
theorem read?_eq_none {scenario : Scenario} {edited : Datum}
    (hincomplete : ¬ scenario.SizesComplete deleted deletedIn)
    (hedited : EditedWithin deleted deletedIn (Form.write scenario) edited) :
    (Form.read? dialect edited : Option Scenario) = none :=
  Option.eq_none_iff_forall_ne_some.mpr fun _ hread ↦
    hincomplete (sizesComplete_of_read? hedited hread)

theorem read?_write (dialect : Dialect) (scenario : Scenario) :
    Form.read? dialect (Form.write scenario) = some scenario :=
  read?_edited (fun _ _ _ _ _ ↦ ⟨rfl, rfl⟩) (.refl (Form.write scenario))

end Scenario

theorem Size.write_plain (size : Size) : (Form.write size).Plain :=
  Datum.plain_record.mpr (by simp [ScalarForm.write_plain])

theorem Size.write_plain_option (size? : Option Size) : (Form.write size?).Plain := by
  cases size? with
  | none => exact .null
  | some size => exact size.write_plain

theorem Scenario.write_plain (scenario : Scenario) : (Form.write scenario).Plain :=
  Datum.plain_record.mpr
    (by simp [Size.write_plain, Size.write_plain_option, ScalarForm.write_plain])

end PageCapture
