import PageCapture.Files.Path

/-!
# Reading the command line

A command line asks for one of three commands with its operands, and for what holds for every
command; that is an `Invocation`. `UsageError` lists what is wrong with a command line that cannot
be read, or what it asks for in place of a command.

The options differ in how they are spelled, what they take, and where they may stand. The top level
and each command know the options for the configuration and the directory for pictures, and each
command has some of its own. `Level` is what has been read of one level, the one above the command
or the one behind it. An option with a value that is given apart stays pending until the next option
or the end of the level: only then is it known that its value came, that the option had not been
given before, and that the value is one it takes.

`Invocation.read` reads the words of a command line, of which the first is the program and counts
for nothing. Options stand before the command, behind it, or on both sides; where a value is given
on both, the one behind the command holds. Words are read from the left, so of two things that are
wrong the first one decides, but a level is only settled at its end, the one behind the command
before the one above it.
-/

set_option autoImplicit false
set_option relaxedAutoImplicit false

namespace PageCapture

/-! ### Invocations -/

/-- The names of the commands. -/
inductive CommandName where
  | capture
  | simulate
  | initConfig
  deriving DecidableEq, Repr

/-- The word for a command. -/
def CommandName.word : CommandName → String
  | .capture => "capture"
  | .simulate => "simulate"
  | .initConfig => "init-config"

/-- All the names of commands. -/
def CommandName.all : List CommandName := [.capture, .simulate, .initConfig]

/-- A command with its operands. -/
inductive Command where
  /-- Capture the document in the window with a title. -/
  | capture (title : String) (contentClass : Option String) (output : Option String)
  /-- Capture a simulated browser. -/
  | simulate (scenario : Option Path) (output : Option String)
  /-- Write a configuration file with the defaults. -/
  | initConfig (path : Option Path) (force : Bool)
  deriving DecidableEq, Repr

/-- What a command line asks for. -/
structure Invocation where
  verbose : Bool
  /-- The configuration file. -/
  config : Option String
  /-- The directory for pictures. -/
  outputDirectory : Option String
  command : Command
  deriving DecidableEq, Repr

/-- Why a command line names no command to run. -/
inductive UsageError where
  /-- It asks for help. -/
  | help
  /-- It asks for the version. -/
  | version
  /-- It is empty, so help is due. -/
  | empty
  | unknownArgument
  | unknownCommand
  | missingCommand
  /-- An option that the command needs is not given. -/
  | missingOption
  /-- An option is given twice at one level. -/
  | repeatedOption
  /-- The value of an option is missing, or empty where it may not be. -/
  | badValue
  /-- The value of an option is no text. -/
  | notText
  /-- An option that takes no value has one. -/
  | surplusValue
  deriving DecidableEq, Repr

/-- The line that tells the version. -/
def versionLine : String := "fullshot 0.1.0\n"

/-! ### Options -/

/-- The options of the command line. -/
inductive Switch where
  | verbose
  | config
  | outputDirectory
  | title
  | contentClass
  | output
  | scenario
  | path
  | force
  | help
  | version
  deriving DecidableEq, Repr

/-- What an option takes for its value. -/
inductive Operand where
  | nothing
  /-- A text, which may be empty. -/
  | text
  /-- The bytes of a path, of which there must be one. -/
  | path
  deriving DecidableEq, Repr

namespace Switch

/-- The long spelling of an option, which stands behind two dashes. -/
def word : Switch → String
  | .verbose => "verbose"
  | .config => "config"
  | .outputDirectory => "output-dir"
  | .title => "title"
  | .contentClass => "content-class"
  | .output => "output"
  | .scenario => "scenario"
  | .path => "path"
  | .force => "force"
  | .help => "help"
  | .version => "version"

/-- The short spelling of an option, which stands behind one dash. -/
def letter? : Switch → Option Char
  | .verbose => some 'v'
  | .config => some 'c'
  | .output => some 'o'
  | .help => some 'h'
  | .version => some 'V'
  | _ => none

/-- What an option takes. -/
def operand : Switch → Operand
  | .verbose | .force | .help | .version => .nothing
  | .scenario | .path => .path
  | _ => .text

end Switch

/-- The options of a command, or of the level above all commands. -/
def switchesOf (command? : Option CommandName) : List Switch :=
  [.verbose, .config, .outputDirectory, .help] ++
    match command? with
    | none => [.version]
    | some .capture => [.title, .contentClass, .output]
    | some .simulate => [.scenario, .output]
    | some .initConfig => [.path, .force]

/-! ### Levels -/

/-- The bytes of a word on the command line. -/
abbrev Argument : Type := List UInt8

/-- The value of an option. -/
inductive SwitchValue where
  | present
  | text (text : String)
  | path (path : Path)
  deriving DecidableEq, Repr

/-- What has been read of a level. -/
structure Level where
  /-- The options that are given, with their values. -/
  given : List (Switch × SwitchValue) := []
  /-- The last option, if its value is given apart, and the value if it has come. -/
  pending? : Option (Switch × Option Argument) := none
  /-- Whether the word that ends the options has been passed. -/
  optionsEnded : Bool := false

namespace Level

/-- The value that an argument is for an option. -/
def valueOf (switch : Switch) (argument : Argument) : Except UsageError SwitchValue :=
  match switch.operand with
  | .nothing => .ok .present
  | .text =>
    match Utf8.decode? argument with
    | some text => .ok (.text text)
    | none => .error .notText
  | .path => if argument = [] then .error .badValue else .ok (.path ⟨argument⟩)

/-- Notes an option with its argument. -/
def note (level : Level) (switch : Switch) (argument : Argument) : Except UsageError Level :=
  if (level.given.lookup switch).isSome then .error .repeatedOption
  else
    match valueOf switch argument with
    | .ok value => .ok { level with given := level.given ++ [(switch, value)] }
    | .error error => .error error

/-- Notes the pending option, which must have its value by now. -/
def settle (level : Level) : Except UsageError Level :=
  match level.pending? with
  | none => .ok level
  | some (_, none) => .error .badValue
  | some (switch, some argument) => { level with pending? := none }.note switch argument

/-- Whether the next word is the value of the last option. -/
def awaitsValue (level : Level) : Bool :=
  match level.pending? with
  | some (_, none) => true
  | _ => false

/-- Takes a word for the value of the last option. -/
def supply (level : Level) (argument : Argument) : Level :=
  { level with pending? := level.pending?.map fun pending ↦ (pending.1, some argument) }

/-- An option without a value, or with one that is attached to it. -/
def give (level : Level) (switch : Switch) (argument : Argument) : Except UsageError Level := do
  let settled ← level.settle
  match switch with
  | .help => throw .help
  | .version => throw .version
  | _ => settled.note switch argument

/-- An option with a value that is still to come. -/
def announce (level : Level) (switch : Switch) : Except UsageError Level := do
  return { ← level.settle with pending? := some (switch, none) }

/-- What follows the equals sign in a row of bytes, and what precedes it. -/
def splitEquals (bytes : List UInt8) : List UInt8 × Option (List UInt8) :=
  let equals : UInt8 := 61
  match bytes.dropWhile (· ≠ equals) with
  | [] => (bytes, none)
  | _ :: value => (bytes.takeWhile (· ≠ equals), some value)

/-- An option in its long spelling, from behind the dashes. -/
def readLong (switches : List Switch) (level : Level) (bytes : List UInt8) :
    Except UsageError Level :=
  let (name, value?) := splitEquals bytes
  match switches.find? fun switch ↦ Utf8.encode switch.word = name with
  | none => .error .unknownArgument
  | some switch =>
    match switch.operand, value? with
    | .nothing, none => level.give switch []
    | .nothing, some _ => .error .surplusValue
    | _, some value => level.give switch value
    | _, none => level.announce switch

/-- Options in their short spelling, from behind the dash. What follows the letter of an option
that takes a value is the value, with or without an equals sign before it. -/
def readShort (switches : List Switch) (level : Level) :
    (letters : List UInt8) → Except UsageError Level
  | [] => .ok level
  | letter :: letters =>
    match switches.find? fun switch ↦ switch.letter?.map Char.toNat = some letter.toNat with
    | none => .error .unknownArgument
    | some switch =>
      if switch.operand = .nothing then
        match level.give switch [] with
        | .ok next => readShort switches next letters
        | .error error => .error error
      else
        match letters with
        | [] => level.announce switch
        | 61 :: value => level.give switch value
        | value => level.give switch value

/-- The value of an option that takes a text. -/
def text? (level : Level) (switch : Switch) : Option String :=
  match level.given.lookup switch with
  | some (.text text) => some text
  | _ => none

/-- The value of an option that takes a path. -/
def path? (level : Level) (switch : Switch) : Option Path :=
  match level.given.lookup switch with
  | some (.path path) => some path
  | _ => none

/-- Whether an option is given. -/
def has (level : Level) (switch : Switch) : Bool := (level.given.lookup switch).isSome

end Level

/-! ### Words -/

/-- What a word on the command line looks like. -/
inductive WordShape where
  /-- Two dashes alone: no options follow. -/
  | optionsEnd
  /-- An option in its long spelling. -/
  | long (bytes : List UInt8)
  /-- Options in their short spelling. -/
  | short (letters : List UInt8)
  /-- Any other word; a dash alone is one. -/
  | plain
  deriving DecidableEq, Repr

/-- The shape of a word. -/
def WordShape.of : Argument → WordShape
  | [45, 45] => .optionsEnd
  | 45 :: 45 :: bytes => .long bytes
  | [45] => .plain
  | 45 :: letters => .short letters
  | _ => .plain

/-- The words for commands: those with a level of their own, and the one that asks for help. -/
inductive CommandWord where
  | command (name : CommandName)
  | help
  deriving DecidableEq, Repr

/-- The command that a word is. -/
def CommandWord.of? (word : Argument) : Option CommandWord :=
  if word = Utf8.encode "help" then some .help
  else
    (CommandName.all.find? fun name ↦ Utf8.encode name.word = word).map CommandWord.command

/-- What the words behind the one for help ask for: a command may be named, and no command has
commands below it. -/
def helpOn : List Argument → UsageError
  | [] => .help
  | [word] => if (CommandWord.of? word).isSome then .help else .unknownCommand
  | _ => .unknownCommand

namespace Level

/-- An option, or the value of one, or the word that ends the options. -/
def readOption (switches : List Switch) (level : Level) (word : Argument) :
    Except UsageError Level :=
  match WordShape.of word with
  | .optionsEnd => .ok { level with optionsEnded := true }
  | .long bytes => level.readLong switches bytes
  | .short letters => level.readShort switches letters
  | .plain => if level.awaitsValue then .ok (level.supply word) else .error .unknownArgument

/-- Reads the words behind a command. -/
def readBelow (command : CommandName) (level : Level) : List Argument → Except UsageError Level
  | [] => level.settle
  | word :: words =>
    if level.optionsEnded then .error .unknownArgument
    else
      match level.readOption (switchesOf (some command)) word with
      | .ok next => next.readBelow command words
      | .error error => .error error

/-- Reads the words before the command; gives the command and the words behind it. -/
def readAbove (level : Level) :
    List Argument → Except UsageError (Level × Option (CommandName × List Argument))
  | [] => .ok (level, none)
  | word :: words =>
    let command? := CommandWord.of? word
    if level.optionsEnded then
      .error (if command?.isSome then .unknownArgument else .unknownCommand)
    else
      match level.awaitsValue, command? with
      | false, some (.command name) => .ok (level, some (name, words))
      | false, some .help => .error (helpOn words)
      | _, _ =>
        if WordShape.of word = .plain ∧ level.awaitsValue = false then .error .unknownCommand
        else
          match level.readOption (switchesOf none) word with
          | .ok next => next.readAbove words
          | .error error => .error error

/-- The command with the operands that its level gives. -/
def command (level : Level) : CommandName → Except UsageError Command
  | .capture =>
    match level.text? .title with
    | some title => .ok (.capture title (level.text? .contentClass) (level.text? .output))
    | none => .error .missingOption
  | .simulate => .ok (.simulate (level.path? .scenario) (level.text? .output))
  | .initConfig => .ok (.initConfig (level.path? .path) (level.has .force))

end Level

namespace Invocation

/-- The invocation that the levels above and below a command make up. -/
def ofLevels (above below : Level) (command : Command) : Invocation where
  verbose := above.has .verbose || below.has .verbose
  config := (below.text? .config).or (above.text? .config)
  outputDirectory := (below.text? .outputDirectory).or (above.text? .outputDirectory)
  command := command

/-- Reads a command line, whose first word is the program. -/
def read (words : List Argument) : Except UsageError Invocation := do
  let (above, command?) ← ({} : Level).readAbove words.tail
  match command? with
  | some (name, words) =>
    let below ← ({} : Level).readBelow name words
    let command ← below.command name
    return ofLevels (← above.settle) below command
  | none =>
    let settled ← above.settle
    throw (if settled.given = [] then .empty else .missingCommand)

end Invocation

end PageCapture
