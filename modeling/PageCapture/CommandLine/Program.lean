import PageCapture.CommandLine.Parser
import PageCapture.Config.File
import PageCapture.Form.Scenario

/-!
# The program

What each command does. `Program.run` runs an invocation in an environment: it loads what the
command needs before it prints or writes anything, prints the line of the response, and then writes
the picture to a file below the directory for pictures (`writePicture`), where directories that are
missing on the way are made. A response that is an error makes the run fail after it is printed.

`Failure` lists the ways in which a run may fail, and `Ending` is how the whole program ends.
-/

set_option autoImplicit false
set_option relaxedAutoImplicit false

namespace PageCapture

/-! ### Picture files -/

/-- Why no picture was written. -/
inductive PictureError where
  | notTransportText
  | directory (path : Path)
  | file (path : Path)
  deriving DecidableEq, Repr

/-- The wording of an error. -/
def PictureError.message : PictureError → String
  | .notTransportText => "Screenshot value is not valid base64"
  | .directory path => "Failed to create directory '" ++ path.display ++ "'"
  | .file path => "Failed to write '" ++ path.display ++ "'"

variable {m : Type → Type} [Monad m]

/-- Writes the picture of a transport text to a file and gives the path of the file. Nothing is made
for a text that is no transport text. -/
def writePicture (env : Environment m) (config : Config) (file text : String) :
    ExceptT PictureError m Path := do
  let path := config.outputPath (← env.home?) file
  match Base64.decode text with
  | .error _ => throw .notTransportText
  | .ok contents =>
    match ← env.makeParents path with
    | .error _ => throw (.directory (path.parent?.getD path))
    | .ok () =>
      match ← env.write path contents with
      | .error _ => throw (.file path)
      | .ok () => return path

/-! ### Commands -/

/-- Why a run failed. -/
inductive Failure where
  | config (error : LoadError)
  | scenario (error : ScenarioError)
  | picture (error : PictureError)
  /-- There are no native windows to capture. -/
  | cannotCapture (title : String)
  /-- The capture met a fault. -/
  | interrupted
  /-- The response is an error. -/
  | refused (message : String)
  | noHome
  | configPresent (path : Path)
  | pathNotText (path : Path)
  | file (error : FileError)
  deriving DecidableEq, Repr

/-- The wording of a failure. -/
def Failure.message : Failure → String
  | .config error => error.message
  | .scenario error => error.message
  | .picture error => error.message
  | .cannotCapture title => "Cannot capture '" ++ title ++ "'"
  | .interrupted => "Capture task panicked"
  | .refused message => message
  | .noHome => "Could not determine a home directory, pass --path"
  | .configPresent path =>
    "Configuration file '" ++ path.display ++ "' already exists (use --force to overwrite)"
  | .pathNotText path => "Path '" ++ path.display ++ "' is not valid UTF-8"
  | .file error => error.message

namespace Program

/-- A step whose errors are failures of a kind. -/
def orFail {ε α : Type} (kind : ε → Failure) (step : m (Except ε α)) : ExceptT Failure m α := do
  match ← step with
  | .ok value => return value
  | .error error => throw (kind error)

/-- Loads the configuration of an invocation. -/
def loadConfig (env : Environment m) (invocation : Invocation) (contentClass : Option String) :
    ExceptT Failure m Config :=
  orFail .config (Config.loadWithOverrides env invocation.config
    { outputDirectory := invocation.outputDirectory, contentClass }).run

/-- Prints a response and writes its picture, if it has one and a file is named for it. -/
def deliver (env : Environment m) (config : Config) (output? : Option String) :
    Response → ExceptT Failure m Unit
  | .success value => do
    env.print ((Response.success value).line ++ "\n")
    match output? with
    | none => return ()
    | some file =>
      if value = "" then return ()
      else discard (orFail .picture (writePicture env config file value).run)
  | .error status message => do
    env.print ((Response.error status message).line ++ "\n")
    throw (.refused message)

/-- The scenario of a simulation. -/
def scenarioOf (env : Environment m) : Option Path → ExceptT Failure m Scenario
  | some path => orFail .scenario (Scenario.load env path).run
  | none => return Scenario.tallDocument

/-- Captures a simulated browser. -/
def simulate (env : Environment m) (config : Config) (scenario? : Option Path)
    (output? : Option String) : ExceptT Failure m Unit := do
  let scenario ← scenarioOf env scenario?
  match simulateScreenshot config.capture scenario with
  | .error _ => throw .interrupted
  | .ok response => deliver env config output? response

/-- The file that a new configuration goes to. -/
def newConfigPath (env : Environment m) : Option Path → ExceptT Failure m Path
  | some path => return path
  | none => do
    match Config.userPath? (← env.home?) with
    | some path => return path
    | none => throw .noHome

/-- Writes a configuration file with the defaults, and makes the directories it is in. -/
def initConfig (env : Environment m) (path? : Option Path) (force : Bool) :
    ExceptT Failure m Unit := do
  let path ← newConfigPath env path?
  let present ← env.isPresent path
  if present && !force then throw (.configPresent path)
  orFail .file (env.makeParents path)
  if path.text?.isNone then throw (.pathNotText path)
  orFail .file (Config.save env {} path)

/-- Runs an invocation. Native windows cannot be captured, so that a capture fails once its
configuration is loaded. -/
def run (env : Environment m) (invocation : Invocation) : ExceptT Failure m Unit := do
  match invocation.command with
  | .capture title contentClass _ =>
    discard (loadConfig env invocation contentClass)
    throw (.cannotCapture title)
  | .simulate scenario? output? =>
    simulate env (← loadConfig env invocation none) scenario? output?
  | .initConfig path? force => initConfig env path? force

/-- How the program ends. -/
inductive Ending where
  | done
  | failed (failure : Failure)
  | misused (error : UsageError)
  deriving DecidableEq, Repr

/-- The number that the program ends with: help and the version are no errors. -/
def Ending.exitCode : Ending → UInt32
  | .done => 0
  | .failed _ => 1
  | .misused .help => 0
  | .misused .version => 0
  | .misused _ => 2

/-- Runs a command line. -/
def runWords (env : Environment m) (words : List Argument) : m Ending := do
  match Invocation.read words with
  | .error error => return .misused error
  | .ok invocation =>
    match ← (run env invocation).run with
    | .ok () => return .done
    | .error failure => return .failed failure

end Program

end PageCapture
