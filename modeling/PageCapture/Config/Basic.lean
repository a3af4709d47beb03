import PageCapture.Datum
import PageCapture.Geometry

/-!
# Configurations

What a configuration file settles: the limits of captures, the class of the window that shows the
document, and the directory for pictures. `Config.validate` gives the first thing that is wrong with
a configuration; only valid ones are ever used, those with which nothing is wrong
(`Config.validate_eq_ok_iff`).

A configuration stands in a file as a record of sections. A section that is missing has its
defaults, and so has each field that is missing from a section.
-/

set_option autoImplicit false
set_option relaxedAutoImplicit false

namespace PageCapture

/-! ### What is configured -/

/-- The window that is captured. -/
structure WindowConfig where
  /-- The class of the child window that shows the document. -/
  contentClass : String := "Internet Explorer_Server"
  deriving DecidableEq, Repr

/-- Where pictures go. -/
structure OutputConfig where
  /-- The directory that relative names of pictures are looked up in. -/
  directory : String := "."
  deriving DecidableEq, Repr

/-- What a configuration file settles. -/
structure Config where
  capture : CaptureOptions := {}
  window : WindowConfig := {}
  output : OutputConfig := {}
  deriving DecidableEq, Repr

/-- What is wrong with a configuration. -/
inductive ConfigError where
  | maxDimensionOutOfRange (given : Int32)
  | negativeSampleInset (given : Int32)
  | negativeScrollbarRetention (given : Int32)
  | blankContentClass
  deriving DecidableEq, Repr

/-- The wording of an error. -/
def ConfigError.message : ConfigError → String
  | .maxDimensionOutOfRange given =>
    "capture.max_dimension must be between 1 and 65534, got " ++ Decimal.numeral given.toInt
  | .negativeSampleInset given =>
    "capture.sample_inset cannot be negative, got " ++ Decimal.numeral given.toInt
  | .negativeScrollbarRetention given =>
    "capture.scrollbar_retention_px cannot be negative, got " ++ Decimal.numeral given.toInt
  | .blankContentClass => "window.content_class cannot be empty"

namespace Config

/-- The greatest limit that may be set on a picture. -/
def greatestDimension : Int32 := 65534

/-- The first thing that is wrong with a configuration, if anything is. -/
def validate (config : Config) : Except ConfigError Unit := do
  let capture := config.capture
  if capture.maxDimension < 1 ∨ greatestDimension < capture.maxDimension then
    throw (.maxDimensionOutOfRange capture.maxDimension)
  if capture.sampleInset < 0 then throw (.negativeSampleInset capture.sampleInset)
  if capture.scrollbarRetention < 0 then
    throw (.negativeScrollbarRetention capture.scrollbarRetention)
  if isBlankText config.window.contentClass then throw .blankContentClass

/-- A configuration with which captures are made. -/
def Valid (config : Config) : Prop :=
  1 ≤ config.capture.maxDimension ∧ config.capture.maxDimension ≤ greatestDimension ∧
    0 ≤ config.capture.sampleInset ∧ 0 ≤ config.capture.scrollbarRetention ∧
    isBlankText config.window.contentClass = false

/-- Nothing is wrong where a check passes and nothing is wrong behind it. -/
theorem ite_throw_eq_ok_iff {p : Prop} [Decidable p] {error : ConfigError}
    {behind : Except ConfigError Unit} :
    (if p then (do throw error; behind) else behind) = .ok () ↔ ¬ p ∧ behind = .ok () := by
  by_cases hp : p
  · rw [if_pos hp]
    exact iff_of_false nofun fun hpasses ↦ hpasses.1 hp
  · rw [if_neg hp]
    exact (and_iff_right hp).symm

/-- Nothing is wrong with a configuration exactly when it is valid. -/
theorem validate_eq_ok_iff {config : Config} : config.validate = .ok () ↔ config.Valid := by
  have hclass : (if isBlankText config.window.contentClass then throw ConfigError.blankContentClass
      else pure () : Except ConfigError Unit) = .ok () ↔
        isBlankText config.window.contentClass = false := by
    cases isBlankText config.window.contentClass with
    | false => exact iff_of_true rfl rfl
    | true => exact iff_of_false nofun nofun
  unfold validate Valid
  simp only [ite_throw_eq_ok_iff, hclass, not_or, Int32.not_lt, and_assoc]

end Config

/-! ### The form of a configuration -/

instance : Form CaptureOptions where
  write options := .record [
    ("max_dimension", Form.write options.maxDimension),
    ("sample_inset", Form.write options.sampleInset),
    ("scrollbar_retention_px", Form.write options.scrollbarRetention)]
  read? dialect datum := do
    let otherwise : CaptureOptions := {}
    match ← datum.fields? dialect
        ["max_dimension", "sample_inset", "scrollbar_retention_px"] with
    | [maxDimension, sampleInset, scrollbarRetention] =>
      return {
        maxDimension := ← Form.default? dialect otherwise.maxDimension maxDimension
        sampleInset := ← Form.default? dialect otherwise.sampleInset sampleInset
        scrollbarRetention := ←
          Form.default? dialect otherwise.scrollbarRetention scrollbarRetention }
    | _ => none

instance : Form WindowConfig where
  write window := .record [("content_class", Form.write window.contentClass)]
  read? dialect datum := do
    let otherwise : WindowConfig := {}
    match ← datum.fields? dialect ["content_class"] with
    | [contentClass] =>
      return { contentClass := ← Form.default? dialect otherwise.contentClass contentClass }
    | _ => none

instance : Form OutputConfig where
  write output := .record [("directory", Form.write output.directory)]
  read? dialect datum := do
    let otherwise : OutputConfig := {}
    match ← datum.fields? dialect ["directory"] with
    | [directory] =>
      return { directory := ← Form.default? dialect otherwise.directory directory }
    | _ => none

instance : Form Config where
  write config := .record [
    ("capture", Form.write config.capture),
    ("window", Form.write config.window),
    ("output", Form.write config.output)]
  read? dialect datum := do
    match ← datum.fields? dialect ["capture", "window", "output"] with
    | [capture, window, output] =>
      return {
        capture := ← Form.default? dialect {} capture
        window := ← Form.default? dialect {} window
        output := ← Form.default? dialect {} output }
    | _ => none

end PageCapture
