import PageCapture.Environment
import PageCapture.Proofs.Action.Checked

/-!
# Changes to a file system

What making directories and writing a file leave of a file system. Neither takes a directory away
(`KeepsDirectories`), and so whatever could be reached before is still reached in the same place
(`KeepsDirectories.walk`).

`DirectoriesMade` says that nothing has changed but that directories stand where nothing stood, each
at the end of one of some ways. It holds of making one directory (`makeDirectory_made`), and by
induction on the paths above it of making a directory with those that are missing, whether that
succeeds or not (`makeDirectoriesFrom_made`). `FileWritten` says that a file with some contents is
found where a path leads and that nothing has changed at any other location; it holds of every
writing that succeeds (`write_written`).
-/

set_option autoImplicit false
set_option relaxedAutoImplicit false

namespace PageCapture

namespace FileSystem

/-! ### Directories that stay -/

/-- Every directory of the first file system is one of the second, and relative paths start in the
same. -/
structure KeepsDirectories (before after : FileSystem) : Prop where
  workingDirectory : after.workingDirectory = before.workingDirectory
  directory : ∀ location, before.entryAt? location = some .directory →
    after.entryAt? location = some .directory

theorem expectDirectory_eq_ok_iff {files : FileSystem} {location : Location} :
    files.expectDirectory location = .ok () ↔ files.entryAt? location = some .directory := by
  unfold expectDirectory
  rcases files.entryAt? location with _ | (_ | contents) <;> simp

namespace KeepsDirectories

variable {before after : FileSystem} (hkeeps : KeepsDirectories before after)

include hkeeps

theorem step {location next : Location} {name : FileName}
    (hstep : before.step location name = .ok next) : after.step location name = .ok next := by
  obtain ⟨_, hdirectory, hnext⟩ := exists_of_bind hstep
  have hkept := expectDirectory_eq_ok_iff.mpr
    (hkeeps.directory location (expectDirectory_eq_ok_iff.mp hdirectory))
  unfold FileSystem.step
  rw [hkept]
  exact hnext

/-- A location that could be reached is still reached. -/
theorem walk {names : List FileName} {location last : Location}
    (hwalk : before.walk location names = .ok last) : after.walk location names = .ok last := by
  induction names generalizing location with
  | nil => exact hwalk
  | cons name names ih =>
    unfold FileSystem.walk at hwalk ih ⊢
    rw [List.foldlM_cons] at hwalk ⊢
    obtain ⟨next, hnext, hrest⟩ := exists_of_bind hwalk
    rw [hkeeps.step hnext]
    exact ih hrest

theorem startOf (path : Path) : after.startOf path = before.startOf path := by
  unfold FileSystem.startOf
  rw [hkeeps.workingDirectory]

end KeepsDirectories

/-- An entry in a place where no directory is takes none away. -/
theorem put_keepsDirectories {files : FileSystem} {location : Location} (entry : FileEntry)
    (hfree : files.entryAt? location ≠ some .directory) :
    KeepsDirectories files (files.put location entry) := by
  refine ⟨rfl, ?_⟩
  intro other hother
  rw [entryAt?_put]
  by_cases hroot : other = []
  · rw [if_pos hroot]
  · have hne : other ≠ location := by
      rintro rfl
      exact hfree hother
    rw [if_neg hroot, if_neg hne, hother]

/-! ### Where the last name of a path leads -/

/-- A path whose last name can be looked up leads through a directory to that name. -/
theorem walk_of_lastStep {files : FileSystem} {path : Path} {directory next : Location}
    {name : FileName} (hlast : files.lastStep path = .ok (directory, some name))
    (hnext : files.step directory name = .ok next) :
    expectPath path = .ok () ∧ files.walk (files.startOf path) path.names = .ok next ∧
      next ≠ [] := by
  obtain ⟨_, hpath, hbehind⟩ := exists_of_bind hlast
  obtain ⟨reached, hreached, hexpects⟩ := exists_of_bind hbehind
  obtain ⟨_, hdirectory, hends⟩ := exists_of_bind hexpects
  obtain ⟨rfl, hname⟩ := Prod.mk.inj (Except.ok.inj hends)
  rw [Option.filter_eq_some_iff, decide_eq_true_iff] at hname
  obtain ⟨hname, hhere, hup⟩ := hname
  refine ⟨hpath, ?_, ?_⟩
  · obtain ⟨front, hfront⟩ := List.getLast?_eq_some_iff.mp hname
    rw [hfront, List.dropLast_concat] at hreached
    unfold walk at hreached ⊢
    rw [hfront, List.foldlM_append, hreached]
    change List.foldlM files.step reached [name] = _
    rw [List.foldlM_cons, hnext]
    rfl
  · unfold step at hnext
    rw [hdirectory, if_neg hhere, if_neg hup] at hnext
    by_cases hlong : longestName < name.length
    · rw [if_pos hlong] at hnext
      cases hnext
    · rw [if_neg hlong] at hnext
      cases hnext
      exact List.append_ne_nil_of_right_ne_nil _ (List.cons_ne_nil _ _)

/-! ### Making directories -/

/-- The second file system is the first with directories where nothing stood, each of which is where
one of the ways leads. -/
structure DirectoriesMade (ways : List Path) (before after : FileSystem) : Prop where
  workingDirectory : after.workingDirectory = before.workingDirectory
  entries : ∀ location, after.entryAt? location = before.entryAt? location ∨
    before.entryAt? location = none ∧ after.entryAt? location = some .directory ∧
      ∃ way ∈ ways, after.walk (after.startOf way) way.names = .ok location

namespace DirectoriesMade

theorem refl (ways : List Path) (files : FileSystem) : DirectoriesMade ways files files :=
  ⟨rfl, fun _ ↦ .inl rfl⟩

theorem keepsDirectories {ways : List Path} {before after : FileSystem}
    (hmade : DirectoriesMade ways before after) : KeepsDirectories before after := by
  refine ⟨hmade.workingDirectory, ?_⟩
  intro location hdirectory
  rcases hmade.entries location with hsame | ⟨-, hnew, -⟩
  · rw [hsame, hdirectory]
  · exact hnew

theorem mono {ways more : List Path} {before after : FileSystem}
    (hmade : DirectoriesMade ways before after) (hways : ∀ way ∈ ways, way ∈ more) :
    DirectoriesMade more before after := by
  refine ⟨hmade.workingDirectory, ?_⟩
  intro location
  refine (hmade.entries location).imp_right ?_
  rintro ⟨hnone, hnew, way, hway, hleads⟩
  exact ⟨hnone, hnew, way, hways way hway, hleads⟩

/-- What has been made stays where it is when more is made. -/
theorem trans {ways : List Path} {before between after : FileSystem}
    (hfirst : DirectoriesMade ways before between)
    (hsecond : DirectoriesMade ways between after) : DirectoriesMade ways before after := by
  refine ⟨hsecond.workingDirectory.trans hfirst.workingDirectory, ?_⟩
  intro location
  rcases hfirst.entries location with hsame | ⟨hnone, hnew, way, hway, hleads⟩
  · rw [← hsame]
    exact hsecond.entries location
  · refine .inr ⟨hnone, hsecond.keepsDirectories.directory location hnew, way, hway, ?_⟩
    rw [hsecond.keepsDirectories.startOf]
    exact hsecond.keepsDirectories.walk hleads

end DirectoriesMade

/-- A directory is made where nothing was, and where its path leads. -/
theorem makeDirectory_made {files after : FileSystem} {path : Path}
    (hmake : files.makeDirectory path = .ok after) : DirectoriesMade [path] files after := by
  obtain ⟨location, hlocation, rfl⟩ := makeDirectory_of_ok hmake
  obtain ⟨⟨directory, name?⟩, hlast, hbehind⟩ := exists_of_bind hlocation
  rcases name? with _ | name
  · cases hbehind
  obtain ⟨next, hnext, hends⟩ := exists_of_bind hbehind
  by_cases hpresent : (files.entryAt? next).isSome
  · rw [if_pos hpresent] at hends
    cases hends
  rw [if_neg hpresent] at hends
  obtain rfl : next = location := Except.ok.inj hends
  rw [Option.not_isSome_iff_eq_none] at hpresent
  obtain ⟨-, hleads, hroot⟩ := walk_of_lastStep hlast hnext
  have hfree : files.entryAt? next ≠ some .directory := by
    rw [hpresent]
    exact nofun
  have hkeeps := put_keepsDirectories .directory hfree
  refine ⟨rfl, ?_⟩
  intro other
  rw [entryAt?_put]
  by_cases hsame : other = next
  · subst hsame
    rw [if_neg hroot, if_pos rfl]
    refine .inr ⟨hpresent, rfl, path, List.mem_singleton_self _, ?_⟩
    rw [hkeeps.startOf]
    exact hkeeps.walk hleads
  · rw [if_neg hsame]
    by_cases hother : other = []
    · rw [if_pos hother, hother]
      exact .inl rfl
    · rw [if_neg hother]
      exact .inl rfl

/-! ### Writing files -/

/-- In the second file system a path leads to a file with some contents; nothing else differs from
the first. -/
structure FileWritten (path : Path) (contents : List UInt8) (before after : FileSystem) : Prop where
  workingDirectory : after.workingDirectory = before.workingDirectory
  elsewhere : ∃ place, after.walk (after.startOf path) path.names = .ok place ∧
    ∀ location, location ≠ place → after.entryAt? location = before.entryAt? location
  read : after.read path = .ok contents

/-- What is written to a path is read from it. -/
theorem write_written {files after : FileSystem} {path : Path} {contents : List UInt8}
    (hwrite : files.write path contents = .ok after) : FileWritten path contents files after := by
  obtain ⟨place, hplace, rfl⟩ := write_of_ok hwrite
  obtain ⟨⟨directory, name?⟩, hlast, hbehind⟩ := exists_of_bind hplace
  rcases name? with _ | name
  · cases hbehind
  by_cases hslash : path.endsInSlash = true
  · simp only [hslash, if_true] at hbehind
    cases hbehind
  simp only [hslash] at hbehind
  obtain ⟨next, hnext, hends⟩ := exists_of_bind hbehind
  by_cases hdirectory : files.entryAt? next = some .directory
  · rw [if_pos hdirectory] at hends
    cases hends
  rw [if_neg hdirectory] at hends
  obtain rfl : next = place := Except.ok.inj hends
  obtain ⟨hpath, hleads, hroot⟩ := walk_of_lastStep hlast hnext
  have hkeeps := put_keepsDirectories (.file contents) hdirectory
  have hreaches : (files.put next (.file contents)).walk
      ((files.put next (.file contents)).startOf path) path.names = .ok next := by
    rw [hkeeps.startOf]
    exact hkeeps.walk hleads
  have hfile : (files.put next (.file contents)).entryAt? next = some (.file contents) := by
    rw [entryAt?_put, if_neg hroot, if_pos rfl]
  refine ⟨rfl, ⟨next, hreaches, ?_⟩, ?_⟩
  · intro location hlocation
    rw [entryAt?_put, if_neg hlocation]
    by_cases hother : location = []
    · rw [if_pos hother, hother]
      rfl
    · rw [if_neg hother]
  · have hfind : (files.put next (.file contents)).find path = .ok (.file contents) := by
      unfold find
      rw [hpath]
      change ((files.put next (.file contents)).walk _ _ >>= _) = _
      rw [hreaches]
      simp only [bind, Except.bind, hfile, hslash]
      rfl
    rw [read, hfind]
    rfl

end FileSystem

/-! ### Directories with those above them -/

/-- The paths of the directories that a path leads through, the nearest first. -/
def Path.leading (path : Path) : List Path :=
  match path.parent? with
  | some parent => parent :: parent.above
  | none => []

namespace Machine

open FileSystem

/-- Two steps of a machine one after the other. -/
theorem run_bind {α β : Type} (first : StateM Machine α) (next : α → StateM Machine β)
    (machine : Machine) :
    (first >>= next).run machine = (next (first.run machine).1).run (first.run machine).2 :=
  rfl

/-- A change of the file system that can be made. -/
theorem run_changeFiles_ok (change : FileSystem → Except FileError FileSystem) {machine : Machine}
    {files : FileSystem} (hchange : change machine.files = .ok files) :
    (changeFiles change).run machine = (.ok (), { machine with files }) := by
  change changeFiles change machine = _
  simp only [changeFiles, hchange]

/-- A change of the file system that cannot be made leaves it as it is. -/
theorem run_changeFiles_error (change : FileSystem → Except FileError FileSystem)
    {machine : Machine} {error : FileError} (hchange : change machine.files = .error error) :
    (changeFiles change).run machine = (.error error, machine) := by
  change changeFiles change machine = _
  simp only [changeFiles, hchange]

theorem run_write_ok {path : Path} {contents : List UInt8} {machine : Machine} {files : FileSystem}
    (hwrite : machine.files.write path contents = .ok files) :
    (environment.write path contents).run machine = (.ok (), { machine with files }) :=
  run_changeFiles_ok (fun files ↦ files.write path contents) hwrite

theorem run_write_error {path : Path} {contents : List UInt8} {machine : Machine}
    {error : FileError} (hwrite : machine.files.write path contents = .error error) :
    (environment.write path contents).run machine = (.error error, machine) :=
  run_changeFiles_error (fun files ↦ files.write path contents) hwrite

theorem makeDirectory_made (path : Path) (machine : Machine) :
    ∃ made files, (environment.makeDirectory path).run machine = (made, { machine with files }) ∧
      DirectoriesMade [path] machine.files files := by
  rcases hmake : machine.files.makeDirectory path with error | files
  · have hrun := run_changeFiles_error (fun files ↦ files.makeDirectory path) hmake
    exact ⟨.error error, machine.files, hrun, .refl _ _⟩
  · have hrun := run_changeFiles_ok (fun files ↦ files.makeDirectory path) hmake
    exact ⟨.ok (), files, hrun, FileSystem.makeDirectory_made hmake⟩

/-- Excusing a directory that is there changes nothing. -/
theorem orPresent_still (path : Path) (made : Except FileError Unit) (machine : Machine) :
    ∃ excused, (environment.orPresent path made).run machine = (excused, machine) := by
  rcases made with error | _
  · by_cases hpresent : machine.files.isDirectory path = true
    · refine ⟨.ok (), ?_⟩
      change (if machine.files.isDirectory path then _ else _ : StateM Machine _).run machine = _
      rw [if_pos hpresent]
      rfl
    · refine ⟨.error error, ?_⟩
      change (if machine.files.isDirectory path then _ else _ : StateM Machine _).run machine = _
      rw [if_neg hpresent]
      rfl
  · exact ⟨.ok (), rfl⟩

/-- A directory made, or excused if it is there, is all that has been made. -/
theorem makeDirectory_orPresent_made (path : Path) (machine : Machine) :
    ∃ made files, (do environment.orPresent path (← environment.makeDirectory path)).run machine =
        (made, { machine with files }) ∧
      DirectoriesMade [path] machine.files files := by
  obtain ⟨made, files, hrun, hmade⟩ := makeDirectory_made path machine
  obtain ⟨excused, hexcused⟩ := orPresent_still path made { machine with files }
  refine ⟨excused, files, ?_, hmade⟩
  rw [run_bind, hrun]
  exact hexcused

/-- Making a directory with those above it that are missing makes directories on these ways and does
nothing else, also where it fails. -/
theorem makeDirectoriesFrom_made (path : Path) (above : List Path) (machine : Machine) :
    ∃ made files, (environment.makeDirectoriesFrom path above).run machine =
        (made, { machine with files }) ∧
      DirectoriesMade (path :: above) machine.files files := by
  induction above generalizing path machine with
  | nil =>
    by_cases hempty : path.bytes = []
    · refine ⟨.ok (), machine.files, ?_, .refl _ _⟩
      rw [Environment.makeDirectoriesFrom, if_pos hempty]
      rfl
    · rw [Environment.makeDirectoriesFrom, if_neg hempty]
      exact makeDirectory_orPresent_made path machine
  | cons parent above ih =>
    by_cases hempty : path.bytes = []
    · refine ⟨.ok (), machine.files, ?_, .refl _ _⟩
      rw [Environment.makeDirectoriesFrom, if_pos hempty]
      rfl
    have hown : ∀ way ∈ [path], way ∈ path :: parent :: above :=
      fun way hway ↦ List.mem_cons.mpr (.inl (List.mem_singleton.mp hway))
    obtain ⟨made, files, hrun, hmade⟩ := makeDirectory_made path machine
    rw [Environment.makeDirectoriesFrom, if_neg hempty, run_bind, hrun]
    by_cases hmissing : made = .error .notFound
    · subst hmissing
      obtain ⟨parents, between, hparents, habove⟩ := ih parent { machine with files }
      have hboth := (hmade.mono hown).trans
        (habove.mono fun way hway ↦ List.mem_cons_of_mem path hway)
      simp only
      rw [run_bind, hparents]
      rcases parents with error | _
      · exact ⟨.error error, between, rfl, hboth⟩
      · obtain ⟨again, last, hagain, hlast⟩ :=
          makeDirectory_orPresent_made path { machine with files := between }
        exact ⟨again, last, hagain, hboth.trans (hlast.mono hown)⟩
    · obtain ⟨excused, hexcused⟩ := orPresent_still path made { machine with files }
      refine ⟨excused, files, ?_, hmade.mono hown⟩
      rw [← hexcused]
      rcases made with (_ | _) | _ <;> first | rfl | exact absurd rfl hmissing

/-- Making the directories that a path leads through makes directories there and does nothing
else. -/
theorem makeParents_made (path : Path) (machine : Machine) :
    ∃ made files, (environment.makeParents path).run machine = (made, { machine with files }) ∧
      DirectoriesMade path.leading machine.files files := by
  unfold Environment.makeParents Path.leading
  rcases path.parent? with _ | parent
  · exact ⟨.ok (), machine.files, rfl, .refl _ _⟩
  · exact makeDirectoriesFrom_made parent parent.above machine

end Machine

end PageCapture
