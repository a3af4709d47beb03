import PageCapture.Files.FileSystem

/-!
# The environment of a program

What a program asks of the system it runs on: files and directories, the home directory, and a
place to print to. `Machine` is such a system in memory, with a file system and the text printed so
far for its state.

`Environment.makeDirectories` makes a directory together with those above it that are missing.
-/

set_option autoImplicit false
set_option relaxedAutoImplicit false

namespace PageCapture

/-- What a program may ask of the system it runs on. -/
structure Environment (m : Type → Type) where
  /-- The home directory of the user, if one is known. -/
  home? : m (Option String)
  /-- Whether there is a file or a directory. -/
  isPresent : Path → m Bool
  isDirectory : Path → m Bool
  /-- The contents of a file. -/
  read : Path → m (Except FileError (List UInt8))
  /-- Makes a file with these contents, or replaces those of one that is there. -/
  write : Path → List UInt8 → m (Except FileError Unit)
  makeDirectory : Path → m (Except FileError Unit)
  print : String → m Unit

namespace Environment

variable {m : Type → Type} [Monad m]

/-- The text in a file, if it can be read and is one. -/
def readText? (env : Environment m) (path : Path) : m (Option String) := do
  match ← env.read path with
  | .ok contents => return Utf8.decode? contents
  | .error _ => return none

/-- Excuses a directory that could not be made because it is there. -/
def orPresent (env : Environment m) (path : Path) (made : Except FileError Unit) :
    m (Except FileError Unit) := do
  match made with
  | .ok () => return .ok ()
  | .error error => if ← env.isDirectory path then return .ok () else return .error error

/-- Makes a directory, and first those above it if one of them is missing. -/
def makeDirectoriesFrom (env : Environment m) (path : Path) :
    (above : List Path) → m (Except FileError Unit)
  | [] => do
    if path.bytes = [] then return .ok ()
    env.orPresent path (← env.makeDirectory path)
  | parent :: above => do
    if path.bytes = [] then return .ok ()
    match ← env.makeDirectory path with
    | .error .notFound =>
      match ← env.makeDirectoriesFrom parent above with
      | .ok () => env.orPresent path (← env.makeDirectory path)
      | .error error => return .error error
    | made => env.orPresent path made

/-- Makes a directory with all those above it that are missing. The empty path needs none. -/
def makeDirectories (env : Environment m) (path : Path) : m (Except FileError Unit) :=
  env.makeDirectoriesFrom path path.above

/-- Makes the directories that a path leads through. -/
def makeParents (env : Environment m) (path : Path) : m (Except FileError Unit) :=
  match path.parent? with
  | some parent => env.makeDirectories parent
  | none => return .ok ()

end Environment

/-- A system in memory. -/
structure Machine where
  files : FileSystem := {}
  home? : Option String := none
  /-- What has been printed. -/
  printed : String := ""
  deriving DecidableEq, Repr

namespace Machine

/-- Changes the file system, or leaves it as it is and tells why. -/
def changeFiles (change : FileSystem → Except FileError FileSystem) :
    StateM Machine (Except FileError Unit) :=
  fun machine ↦
    match change machine.files with
    | .ok files => (.ok (), { machine with files })
    | .error error => (.error error, machine)

/-- A system in memory as an environment. -/
def environment : Environment (StateM Machine) where
  home? := fun machine ↦ (machine.home?, machine)
  isPresent path := fun machine ↦ (machine.files.isPresent path, machine)
  isDirectory path := fun machine ↦ (machine.files.isDirectory path, machine)
  read path := fun machine ↦ (machine.files.read path, machine)
  write path contents := changeFiles fun files ↦ files.write path contents
  makeDirectory path := changeFiles fun files ↦ files.makeDirectory path
  print text := fun machine ↦ ((), { machine with printed := machine.printed ++ text })

end Machine

end PageCapture
