import PageCapture.Files.Path

/-!
# File systems

A tree of directories and files, given by the entry at each location, together with the directory
that relative paths start from. `FileSystem.walk` follows the names of a path; on it rest reading,
writing and making directories, each with the errors of a POSIX system in the system's own words
(`FileError`).

`entryAt?_put` says what a change of one entry does to every location, and `write_of_ok` and
`makeDirectory_of_ok` say that writing a file and making a directory change one entry at most.
-/

set_option autoImplicit false
set_option relaxedAutoImplicit false

namespace PageCapture

/-! ### Errors of the file system -/

/-- Why the file system did not do what it was asked. -/
inductive FileError where
  | notFound
  | alreadyExists
  | notDirectory
  | isDirectory
  | nameTooLong
  | nulByte
  /-- Any other reason, in the words of the system. -/
  | other (message : String)
  deriving DecidableEq, Repr

/-- The wording of an error. -/
def FileError.message : FileError → String
  | .notFound => "No such file or directory (os error 2)"
  | .alreadyExists => "File exists (os error 17)"
  | .notDirectory => "Not a directory (os error 20)"
  | .isDirectory => "Is a directory (os error 21)"
  | .nameTooLong => "File name too long (os error 36)"
  | .nulByte => "file name contained an unexpected NUL byte"
  | .other message => message

/-! ### The tree -/

/-- A place in the tree: the names on the way from the root. -/
abbrev Location : Type := List FileName

/-- What stands at a location. -/
inductive FileEntry where
  | directory
  | file (contents : List UInt8)
  deriving DecidableEq, Repr

/-- A tree of files and directories. -/
structure FileSystem where
  /-- What stands at each location but the root, which is always a directory. -/
  entries : List (Location × FileEntry) := []
  /-- The directory that relative paths start from. -/
  workingDirectory : Location := []
  deriving DecidableEq, Repr

namespace FileSystem

/-- The greatest length of a name. -/
def longestName : Nat := 255

/-- The greatest length of a path. -/
def longestPath : Nat := 4095

/-- What stands at a location. -/
def entryAt? (files : FileSystem) (location : Location) : Option FileEntry :=
  if location = [] then some .directory else files.entries.lookup location

/-- The entries at all other locations. -/
def without (location : Location) (entries : List (Location × FileEntry)) :
    List (Location × FileEntry) :=
  entries.filter fun entry ↦ entry.1 ≠ location

/-- Puts an entry at a location, in place of what stood there. -/
def put (location : Location) (entry : FileEntry) (files : FileSystem) : FileSystem :=
  { files with entries := (location, entry) :: without location files.entries }

/-- Fails where no directory is. -/
def expectDirectory (files : FileSystem) (location : Location) : Except FileError Unit :=
  match files.entryAt? location with
  | none => .error .notFound
  | some (.file _) => .error .notDirectory
  | some .directory => .ok ()

/-- Goes from a directory to where a name leads. Nothing needs to be there. -/
def step (files : FileSystem) (location : Location) (name : FileName) :
    Except FileError Location := do
  files.expectDirectory location
  if name = FileName.here then return location
  else if name = FileName.up then return location.dropLast
  else if longestName < name.length then throw .nameTooLong
  else return location ++ [name]

/-- Goes where names lead from a location. -/
def walk (files : FileSystem) (location : Location) (names : List FileName) :
    Except FileError Location :=
  names.foldlM files.step location

/-- The location that a path starts from. -/
def startOf (files : FileSystem) (path : Path) : Location :=
  if path.isAbsolute then [] else files.workingDirectory

/-- Fails for a path that no file system can follow. -/
def expectPath (path : Path) : Except FileError Unit :=
  if path.bytes.contains 0 then .error .nulByte
  else if path.bytes = [] then .error .notFound
  else if longestPath < path.bytes.length then .error .nameTooLong
  else .ok ()

/-- What stands where a path leads. -/
def find (files : FileSystem) (path : Path) : Except FileError FileEntry := do
  expectPath path
  match files.entryAt? (← files.walk (files.startOf path) path.names) with
  | none => throw .notFound
  | some .directory => return .directory
  | some (.file contents) =>
    if path.endsInSlash then throw .notDirectory else return .file contents

/-- Whether anything is where a path leads. -/
def isPresent (files : FileSystem) (path : Path) : Bool :=
  match files.find path with
  | .ok _ => true
  | .error _ => false

/-- Whether a directory is where a path leads. -/
def isDirectory (files : FileSystem) (path : Path) : Bool :=
  match files.find path with
  | .ok .directory => true
  | _ => false

/-- The contents of the file where a path leads. -/
def read (files : FileSystem) (path : Path) : Except FileError (List UInt8) := do
  match ← files.find path with
  | .directory => throw .isDirectory
  | .file contents => return contents

/-- The directory in which the last name of a path is looked up, and that name, if it has one. -/
def lastStep (files : FileSystem) (path : Path) :
    Except FileError (Location × Option FileName) := do
  expectPath path
  let location ← files.walk (files.startOf path) path.names.dropLast
  files.expectDirectory location
  return (location, path.names.getLast?.filter fun name ↦
    name ≠ FileName.here ∧ name ≠ FileName.up)

/-- The location of the file that is made or replaced by writing to a path. -/
def fileLocation (files : FileSystem) (path : Path) : Except FileError Location := do
  match ← files.lastStep path with
  | (_, none) => throw .isDirectory
  | (directory, some name) =>
    if path.endsInSlash then throw .isDirectory
    else
      let location ← files.step directory name
      if files.entryAt? location = some .directory then throw .isDirectory
      else return location

/-- Makes a file with these contents, or replaces those of the file that is there. -/
def write (files : FileSystem) (path : Path) (contents : List UInt8) :
    Except FileError FileSystem := do
  return files.put (← files.fileLocation path) (.file contents)

/-- The location of the directory that is made at a path. -/
def directoryLocation (files : FileSystem) (path : Path) : Except FileError Location := do
  match ← files.lastStep path with
  | (_, none) => throw .alreadyExists
  | (directory, some name) =>
    let location ← files.step directory name
    if (files.entryAt? location).isSome then throw .alreadyExists else return location

/-- Makes an empty directory where nothing is. -/
def makeDirectory (files : FileSystem) (path : Path) : Except FileError FileSystem := do
  return files.put (← files.directoryLocation path) .directory

theorem lookup_without (entries : List (Location × FileEntry)) {location other : Location}
    (hother : other ≠ location) :
    (without location entries).lookup other = entries.lookup other := by
  unfold without
  induction entries with
  | nil => rfl
  | cons entry entries ih =>
    obtain ⟨place, held⟩ := entry
    by_cases hplace : place = location
    · subst hplace
      have hunlike : (other == place) = false := by simpa using hother
      rw [List.filter_cons_of_neg (by simp), ih, List.lookup_cons, hunlike]
    · rw [List.filter_cons_of_pos (by simpa using hplace), List.lookup_cons, List.lookup_cons, ih]

/-- A change at one location shows there and nowhere else; the root stays a directory. -/
theorem entryAt?_put (files : FileSystem) (location other : Location) (entry : FileEntry) :
    (files.put location entry).entryAt? other =
      if other = [] then some .directory
      else if other = location then some entry
      else files.entryAt? other := by
  unfold entryAt? put
  by_cases hroot : other = []
  · simp [hroot]
  · by_cases hsame : other = location
    · simp [hsame]
    · have hunlike : (other == location) = false := by simpa using hsame
      simp [hroot, hsame, List.lookup_cons, hunlike, lookup_without files.entries hsame]

/-- Where a location is found, an entry is put there. -/
theorem exists_location_of_put {files after : FileSystem} {located : Except FileError Location}
    {entry : FileEntry} (hput : (do return files.put (← located) entry) = .ok after) :
    ∃ location, located = .ok location ∧ after = files.put location entry := by
  cases located with
  | error error => cases hput
  | ok location =>
    cases hput
    exact ⟨location, rfl, rfl⟩

/-- A file that was written stands at one location, and nothing else has changed. -/
theorem write_of_ok {files after : FileSystem} {path : Path} {contents : List UInt8}
    (hwrite : files.write path contents = .ok after) :
    ∃ location, files.fileLocation path = .ok location ∧
      after = files.put location (.file contents) :=
  exists_location_of_put hwrite

/-- A directory that was made stands at one location, and nothing else has changed. -/
theorem makeDirectory_of_ok {files after : FileSystem} {path : Path}
    (hmade : files.makeDirectory path = .ok after) :
    ∃ location, files.directoryLocation path = .ok location ∧
      after = files.put location .directory :=
  exists_location_of_put hmade

end FileSystem

end PageCapture
