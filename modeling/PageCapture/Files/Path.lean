import PageCapture.Text

/-!
# Paths

The names of files and directories. A path is a row of bytes: the names of the directories on the
way and of the file, separated by slashes. Names that are empty or a single dot lead nowhere, and so
they count neither for the names of a path nor for the path above it; a dot at the very start of a
relative path is the exception, since it stands for the place the path starts from.

`Path.names` are the steps of a path, `Path.join` puts one path behind another, and `Path.above` are
the paths of the directories on the way, the nearest first. A path that starts with a tilde, alone
or before a slash, starts in the home directory (`expandHome`); where there is no home directory it
stays as it is, and so does any other path.
-/

set_option autoImplicit false
set_option relaxedAutoImplicit false

namespace PageCapture

/-! ### Names and paths -/

/-- The bytes of one name on a path. -/
abbrev FileName : Type := List UInt8

namespace FileName

/-- The byte that separates names. -/
def slash : UInt8 := 47

/-- The name of a directory in itself. -/
def here : FileName := [46]

/-- The name of a directory's parent in the directory. -/
def up : FileName := [46, 46]

/-- Whether a name on a path leads nowhere. -/
def isIdle (name : FileName) : Bool := name = [] ∨ name = here

/-- The names between the slashes of a row of bytes; there is one more than there are slashes. -/
def split : List UInt8 → List FileName
  | [] => [[]]
  | byte :: bytes =>
    if byte = slash then [] :: split bytes
    else
      match split bytes with
      | name :: names => (byte :: name) :: names
      | [] => [[byte]]

/-- The row of bytes that names make with slashes between them. -/
def joined (names : List FileName) : List UInt8 := (names.intersperse [slash]).flatten

end FileName

/-- The name of a file or a directory. -/
structure Path where
  bytes : List UInt8
  deriving DecidableEq, Repr

namespace Path

/-- The path that a text is. -/
def ofText (text : String) : Path := ⟨Utf8.encode text⟩

/-- The text that a path is. -/
def text? (path : Path) : Option String := Utf8.decode? path.bytes

/-- A path as it is shown in messages. -/
def display (path : Path) : String := Utf8.lossy path.bytes

/-- Whether a path starts at the root. -/
def isAbsolute (path : Path) : Bool := path.bytes.head? = some FileName.slash

/-- Whether a path ends in a slash, as those do that can only name a directory. -/
def endsInSlash (path : Path) : Bool := path.bytes.getLast? = some FileName.slash

/-- The names on a path, of which a dot or two may be one. -/
def names (path : Path) : List FileName := (FileName.split path.bytes).filter (· ≠ [])

/-- A path seen from the directory that another one names. -/
def join (directory file : Path) : Path :=
  if file.isAbsolute then file
  else if directory.bytes = [] ∨ directory.endsInSlash then ⟨directory.bytes ++ file.bytes⟩
  else ⟨directory.bytes ++ FileName.slash :: file.bytes⟩

/-- The start of a path, which is the root, the dot or nothing, and the names that follow. -/
def opened (path : Path) : List UInt8 × List FileName :=
  match FileName.split path.bytes with
  | name :: names =>
    if name = FileName.here then
      (FileName.here, if names = [] then [] else [] :: names)
    else if name = [] ∧ names ≠ [] then ([FileName.slash], names)
    else ([], name :: names)
  | [] => ([], [])

/-- A path and those above it, the longest first; it ends where its last name ends. The names are
given the last first. -/
def rising (start : List UInt8) : List FileName → List Path
  | [] => ⟨start⟩ :: (if start = FileName.here then [⟨[]⟩] else [])
  | name :: names =>
    if FileName.isIdle name then rising start names
    else ⟨start ++ FileName.joined (name :: names).reverse⟩ :: rising start names

/-- The paths of the directories on the way to where a path leads, the nearest first. -/
def above (path : Path) : List Path :=
  let (start, names) := path.opened
  (rising start names.reverse).tail

/-- The path of the directory that a path leads into. -/
def parent? (path : Path) : Option Path := path.above.head?

end Path

/-! ### The home directory in a path -/

/-- Puts the home directory in the place of a tilde at the start of a path. -/
def expandHome (home? : Option String) (path : String) : String :=
  match home?, path.toList with
  | some home, '~' :: rest =>
    if rest.head?.all (· = '/') then home ++ String.ofList rest else path
  | _, _ => path

/-- A path that does not start with a tilde stays as it is. -/
theorem expandHome_of_head?_ne (home? : Option String) {path : String}
    (hhead : path.toList.head? ≠ some '~') : expandHome home? path = path := by
  unfold expandHome
  split
  · next rest hstart => simp [hstart] at hhead
  · rfl

end PageCapture
