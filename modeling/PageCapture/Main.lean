import PageCapture.CommandLine.Program

/-!
# The executable

Runs `Program.runWords` on the arguments of the process, with the file system, the home directory
and the standard output of the process for its environment. Everything that is decided is decided
there; here files are opened and texts printed.
-/

set_option autoImplicit false
set_option relaxedAutoImplicit false

namespace PageCapture.Executable

/-- Why a call of the system failed. -/
def fileError : IO.Error → FileError
  | .noFileOrDirectory .. => .notFound
  | .alreadyExists .. => .alreadyExists
  | .inappropriateType _ 21 _ => .isDirectory
  | .inappropriateType .. => .notDirectory
  | .invalidArgument _ 36 _ => .nameTooLong
  | .permissionDenied _ code details =>
    .other (details ++ " (os error " ++ toString code ++ ")")
  | error => .other (toString error)

/-- A call of the system for a path, which must be a text. -/
def onPath {α : Type} (path : Path) (call : String → IO α) : IO (Except FileError α) := do
  match path.text? with
  | none => return .error (.other "the path is not a text")
  | some name =>
    try return .ok (← call name)
    catch error => return .error (fileError error)

/-- The system that the process runs on. -/
def environment : Environment IO where
  home? := return (← IO.getEnv "HOME").filter fun home ↦ home ≠ ""
  isPresent path := do
    let present ← onPath path fun name ↦ (System.mkFilePath [name]).pathExists
    return match present with
      | .ok found => found
      | .error _ => false
  isDirectory path := do
    let present ← onPath path fun name ↦ (System.mkFilePath [name]).isDir
    return match present with
      | .ok found => found
      | .error _ => false
  read path := onPath path fun name ↦ return (← IO.FS.readBinFile name).data.toList
  write path contents :=
    onPath path fun name ↦ IO.FS.writeBinFile name ⟨contents.toArray⟩
  makeDirectory path := onPath path fun name ↦ IO.FS.createDir name
  print text := IO.print text

/-- What the program is for and how it is called. -/
def help : String :=
  "Full-page screenshots of documents hosted in native windows

Usage: fullshot [OPTIONS] <COMMAND>

Commands:
  capture      Capture the document in a native window
  simulate     Run the capture pipeline against a simulated browser
  init-config  Write a default configuration file
  help         Print this message

Options:
  -v, --verbose           Enable verbose logging
  -c, --config <CONFIG>   Configuration file path
      --output-dir <DIR>  Directory relative output paths are written to
  -h, --help              Print help
  -V, --version           Print version

capture:      --title <TITLE> [--content-class <CLASS>] [-o, --output <OUTPUT>]
simulate:     [--scenario <FILE>] [-o, --output <OUTPUT>]
init-config:  [--path <PATH>] [--force]
"

/-- What is wrong with a command line. -/
def complaint : UsageError → String
  | .help | .version | .empty => ""
  | .unknownArgument => "unexpected argument"
  | .unknownCommand => "unrecognized subcommand"
  | .missingCommand => "a subcommand is required"
  | .missingOption => "a required option is missing"
  | .repeatedOption => "an option cannot be used multiple times"
  | .badValue => "a value is required"
  | .notText => "a value is not valid UTF-8"
  | .surplusValue => "an option takes no value"

/-- Tells the user how the program ended. -/
def report : Program.Ending → IO Unit
  | .done => return
  | .failed failure => IO.eprintln ("Error: " ++ failure.message)
  | .misused .help => IO.print help
  | .misused .version => IO.print versionLine
  | .misused .empty => IO.eprint help
  | .misused error => IO.eprint ("error: " ++ complaint error ++ "\n\n" ++ help)

end PageCapture.Executable

def main (words : List String) : IO UInt32 := do
  let arguments := ("fullshot" :: words).map PageCapture.Utf8.encode
  let ending ← PageCapture.Program.runWords PageCapture.Executable.environment arguments
  PageCapture.Executable.report ending
  return ending.exitCode
