import PageCapture.Config.Basic
import PageCapture.Proofs.Form.Edits

/-!
# Sizes and sections after an edit

The records whose members are no records: sizes, and the sections of a configuration. After an edit
each is read by its names. A size needs both of its components (`Size.read?_edited`); a section has
the default of every field that was left out and keeps the others as they are, and a configuration
does the same with its sections (`Config.read?_edited`).
-/

set_option autoImplicit false
set_option relaxedAutoImplicit false

namespace PageCapture

open Datum

variable {deleted : String → Bool} (dialect : Dialect)

/-- What is no record cannot be edited. -/
theorem ScalarForm.read?_edited {α : Type} [Form α] [ScalarForm α]
    {part : String → Datum → Datum → Prop} {value : α} {edited : Datum}
    (hedited : Edited deleted part (Form.write value) edited) :
    Form.read? dialect edited = some value := by
  rw [hedited.eq_of_ne_record (ScalarForm.write_ne_record value), ScalarForm.read?_write]

/-- A part that is as it was written is read as it was. -/
theorem ScalarForm.read?_eq {α : Type} [Form α] [ScalarForm α] (value : α) :
    ∀ edited, Form.write value = edited → Form.read? dialect edited = some value := by
  rintro edited rfl
  exact ScalarForm.read?_write dialect value

/-! ### Sizes -/

/-- A size is read if it has both of its components. -/
theorem Size.read?_edited {size : Size} {edited : Datum}
    (hedited : Edited deleted (fun _ ↦ Eq) (Form.write size) edited) :
    (Form.read? dialect edited : Option Size) =
      if deleted "width" || deleted "height" then none else some size := by
  obtain ⟨found, hfields, hfound⟩ := Edited.fields? hedited
    (show ["width", "height"].Nodup by decide) dialect
  simp only [List.forall_mem_cons] at hfound
  obtain ⟨hwidth, hheight, -⟩ := hfound
  replace hwidth := hwidth.required? (ScalarForm.read?_eq dialect size.width)
  replace hheight := hheight.required? (ScalarForm.read?_eq dialect size.height)
  change (edited.fields? dialect ["width", "height"]).bind _ = _
  change edited.fields? dialect ["width", "height"] = some [found "width", found "height"]
    at hfields
  rw [hfields, Option.bind_some]
  simp only [hwidth, hheight]
  cases deleted "width" <;> cases deleted "height" <;> rfl

/-! ### Sections of a configuration -/

/-- Options with the defaults of some fields. -/
def CaptureOptions.defaulted (options : CaptureOptions) (deleted : String → Bool) :
    CaptureOptions where
  maxDimension :=
    if deleted "max_dimension" then ({} : CaptureOptions).maxDimension else options.maxDimension
  sampleInset :=
    if deleted "sample_inset" then ({} : CaptureOptions).sampleInset else options.sampleInset
  scrollbarRetention :=
    if deleted "scrollbar_retention_px" then ({} : CaptureOptions).scrollbarRetention
    else options.scrollbarRetention

theorem CaptureOptions.read?_edited {options : CaptureOptions} {edited : Datum}
    (hedited : Edited deleted (fun _ ↦ Eq) (Form.write options) edited) :
    Form.read? dialect edited = some (options.defaulted deleted) := by
  obtain ⟨found, hfields, hfound⟩ := Edited.fields? hedited
    (show ["max_dimension", "sample_inset", "scrollbar_retention_px"].Nodup by decide) dialect
  simp only [List.forall_mem_cons] at hfound
  obtain ⟨hmax, hinset, hretention, -⟩ := hfound
  replace hmax := hmax.default? (fun _ ↦ ScalarForm.read?_eq dialect options.maxDimension)
    ({} : CaptureOptions).maxDimension
  replace hinset := hinset.default? (fun _ ↦ ScalarForm.read?_eq dialect options.sampleInset)
    ({} : CaptureOptions).sampleInset
  replace hretention := hretention.default?
    (fun _ ↦ ScalarForm.read?_eq dialect options.scrollbarRetention)
    ({} : CaptureOptions).scrollbarRetention
  change (edited.fields? dialect _).bind _ = _
  change edited.fields? dialect ["max_dimension", "sample_inset", "scrollbar_retention_px"] =
    some [found "max_dimension", found "sample_inset", found "scrollbar_retention_px"] at hfields
  rw [hfields, Option.bind_some]
  simp only [hmax, hinset, hretention]
  rfl

/-- A section about windows with the defaults of some fields. -/
def WindowConfig.defaulted (window : WindowConfig) (deleted : String → Bool) : WindowConfig where
  contentClass :=
    if deleted "content_class" then ({} : WindowConfig).contentClass else window.contentClass

/-- A section about pictures with the defaults of some fields. -/
def OutputConfig.defaulted (output : OutputConfig) (deleted : String → Bool) : OutputConfig where
  directory := if deleted "directory" then ({} : OutputConfig).directory else output.directory

theorem WindowConfig.read?_edited {window : WindowConfig} {edited : Datum}
    (hedited : Edited deleted (fun _ ↦ Eq) (Form.write window) edited) :
    Form.read? dialect edited = some (window.defaulted deleted) := by
  obtain ⟨found, hfields, hfound⟩ := Edited.fields? hedited
    (show ["content_class"].Nodup by decide) dialect
  have hclass := (hfound _ (.head _)).default?
    (fun _ ↦ ScalarForm.read?_eq dialect window.contentClass) ({} : WindowConfig).contentClass
  change (edited.fields? dialect _).bind _ = _
  change edited.fields? dialect ["content_class"] = some [found "content_class"] at hfields
  rw [hfields, Option.bind_some]
  simp only [hclass]
  rfl

theorem OutputConfig.read?_edited {output : OutputConfig} {edited : Datum}
    (hedited : Edited deleted (fun _ ↦ Eq) (Form.write output) edited) :
    Form.read? dialect edited = some (output.defaulted deleted) := by
  obtain ⟨found, hfields, hfound⟩ := Edited.fields? hedited
    (show ["directory"].Nodup by decide) dialect
  have hdirectory := (hfound _ (.head _)).default?
    (fun _ ↦ ScalarForm.read?_eq dialect output.directory) ({} : OutputConfig).directory
  change (edited.fields? dialect _).bind _ = _
  change edited.fields? dialect ["directory"] = some [found "directory"] at hfields
  rw [hfields, Option.bind_some]
  simp only [hdirectory]
  rfl

/-! ### Configurations -/

namespace Config

/-- A configuration with the defaults of some sections, and of some fields in the others. -/
def defaulted (config : Config) (deleted : String → Bool) (deletedIn : String → String → Bool) :
    Config where
  capture := if deleted "capture" then {} else config.capture.defaulted (deletedIn "capture")
  window := if deleted "window" then {} else config.window.defaulted (deletedIn "window")
  output := if deleted "output" then {} else config.output.defaulted (deletedIn "output")

/-- A configuration is read after any edit of its sections and of the fields in them. -/
theorem read?_edited {deletedIn : String → String → Bool} {config : Config} {edited : Datum}
    (hedited : EditedWithin deleted deletedIn (Form.write config) edited) :
    Form.read? dialect edited = some (config.defaulted deleted deletedIn) := by
  obtain ⟨found, hfields, hfound⟩ := Edited.fields? hedited
    (show ["capture", "window", "output"].Nodup by decide) dialect
  simp only [List.forall_mem_cons] at hfound
  obtain ⟨hcapture, hwindow, houtput, -⟩ := hfound
  replace hcapture := hcapture.default?
    (fun _ _ hpart ↦ CaptureOptions.read?_edited dialect hpart) {}
  replace hwindow := hwindow.default? (fun _ _ hpart ↦ WindowConfig.read?_edited dialect hpart) {}
  replace houtput := houtput.default? (fun _ _ hpart ↦ OutputConfig.read?_edited dialect hpart) {}
  change (edited.fields? dialect _).bind _ = _
  change edited.fields? dialect ["capture", "window", "output"] =
    some [found "capture", found "window", found "output"] at hfields
  rw [hfields, Option.bind_some]
  simp only [hcapture, hwindow, houtput]
  rfl

/-- Every configuration is read from what it is written as. -/
theorem read?_write (config : Config) :
    Form.read? dialect (Form.write config) = some config :=
  read?_edited dialect (.refl (Form.write config))

theorem write_plain (config : Config) : (Form.write config).Plain := by
  have hcapture : (Form.write config.capture).Plain :=
    Datum.plain_record.mpr (by simp [ScalarForm.write_plain])
  have hwindow : (Form.write config.window).Plain :=
    Datum.plain_record.mpr (by simp [ScalarForm.write_plain])
  have houtput : (Form.write config.output).Plain :=
    Datum.plain_record.mpr (by simp [ScalarForm.write_plain])
  exact Datum.plain_record.mpr (by simp [hcapture, hwindow, houtput])

end Config

end PageCapture
