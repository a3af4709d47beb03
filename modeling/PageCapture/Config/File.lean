import PageCapture.Config.Basic
import PageCapture.Environment
import PageCapture.Toml.Document

/-!
# Configuration files

Configurations are kept in TOML files. `Config.load` reads the file that is named, or the first one
found at the usual places; where there is none the defaults hold. A configuration is only ever given
out when it is valid, also after values from elsewhere have taken the place of its own.

`Config.outputPath` says where a picture goes and `Config.userPath?` where a user keeps their own
configuration.
-/

set_option autoImplicit false
set_option relaxedAutoImplicit false

namespace PageCapture

/-- Why no configuration was loaded. -/
inductive LoadError where
  | missing (path : String)
  | unreadable (path : String)
  | notConfig (path : String)
  | invalid (error : ConfigError)
  deriving DecidableEq, Repr

/-- The wording of an error. -/
def LoadError.message : LoadError → String
  | .missing path => "Configuration file '" ++ path ++ "' does not exist"
  | .unreadable path => "Failed to read configuration file '" ++ path ++ "'"
  | .notConfig path => "Failed to parse configuration file '" ++ path ++ "'"
  | .invalid error => error.message

/-- Values that take the place of those in a configuration file. -/
structure Overrides where
  outputDirectory : Option String := none
  contentClass : Option String := none
  deriving DecidableEq, Repr

namespace Config

/-- The text of a configuration file. -/
def text (config : Config) : String := Toml.write (Form.write config)

/-- The configuration in the text of a file. -/
def ofText? (text : String) : Option Config := (Toml.read? text).bind (Form.read? Dialect.toml)

/-- A configuration if it is valid. -/
def checked (config : Config) : Except LoadError Config :=
  match config.validate with
  | .ok () => .ok config
  | .error error => .error (.invalid error)

/-- A configuration with values put in place of its own. -/
def withOverrides (config : Config) (overrides : Overrides) : Config where
  capture := config.capture
  window := { contentClass := overrides.contentClass.getD config.window.contentClass }
  output := { directory := overrides.outputDirectory.getD config.output.directory }

/-- The places where a configuration file is looked for, in this order. -/
def usualPlaces : List String :=
  ["./fullshot.toml", "~/.config/fullshot/config.toml", "~/.fullshot.toml"]

variable {m : Type → Type} [Monad m]

/-- The file to load: the one that is named, which must be there, or the first at a usual place. -/
def findFile (env : Environment m) (path? : Option String) :
    ExceptT LoadError m (Option String) := do
  let home? ← env.home?
  match path? with
  | some path =>
    let place := expandHome home? path
    if ← env.isPresent (Path.ofText place) then return some place
    else throw (.missing path)
  | none =>
    (usualPlaces.map (expandHome home?)).findM? fun place ↦
      (env.isPresent (Path.ofText place) : m Bool)

/-- Loads the configuration that is named, or the one at a usual place, or the defaults. -/
def load (env : Environment m) (path? : Option String) : ExceptT LoadError m Config := do
  match ← findFile env path? with
  | none => return {}
  | some place =>
    match ← env.readText? (Path.ofText place) with
    | none => throw (.unreadable place)
    | some text =>
      match ofText? text with
      | none => throw (.notConfig place)
      | some config => config.checked

/-- Loads a configuration and puts values in place of its own. -/
def loadWithOverrides (env : Environment m) (path? : Option String) (overrides : Overrides) :
    ExceptT LoadError m Config := do
  let config ← load env path?
  (config.withOverrides overrides).checked

/-- Writes a configuration to a file. It need not be valid. -/
def save (env : Environment m) (config : Config) (path : Path) : m (Except FileError Unit) :=
  env.write path (Utf8.encode config.text)

/-- Where a picture goes: a relative path starts in the directory for pictures. -/
def outputPath (home? : Option String) (config : Config) (file : String) : Path :=
  (Path.ofText (expandHome home? config.output.directory)).join
    (Path.ofText (expandHome home? file))

/-- Where a user keeps their own configuration. -/
def userPath? (home? : Option String) : Option Path :=
  home?.map fun home ↦
    [".config", "fullshot", "config.toml"].foldl
      (fun path name ↦ path.join (Path.ofText name)) (Path.ofText home)

end Config

end PageCapture
