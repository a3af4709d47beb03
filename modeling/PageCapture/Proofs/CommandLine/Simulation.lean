import PageCapture.Proofs.CommandLine.Loading
import PageCapture.Proofs.Json.Printer
import PageCapture.Proofs.Screenshot.Answer

/-!
# What a simulation does to a machine

`run_simulate` follows the command from its first loading to the picture file, on every machine and
for all its operands. `Simulation` lists how it may end. Nothing is printed and nothing changes
before a configuration and a scenario are loaded and the capture has an answer. The answer is then
printed as one line, and if it carries a picture and a file is named, `Delivery` says what becomes
of the files: directories are made on the way to the file where there were none, and the file holds
the picture if the directories and the file could be made, which is when the command succeeds.
-/

set_option autoImplicit false
set_option relaxedAutoImplicit false

namespace PageCapture

open Machine FileSystem

/-- A machine that has printed the line of a response besides. -/
def Machine.showing (machine : Machine) (response : Response) : Machine :=
  { machine with printed := machine.printed ++ (response.line ++ "\n") }

namespace Program

/-! ### Steps that may fail -/

section Steps

variable {ε α β : Type} {machine last : Machine}

theorem run_bind_of_ok {first : ExceptT ε (StateM Machine) α}
    {next : α → ExceptT ε (StateM Machine) β} {value : α}
    (hfirst : first.run.run machine = (.ok value, last)) :
    (first >>= next).run.run machine = (next value).run.run last := by
  rw [ExceptT.run_bind, run_bind, hfirst]

theorem run_bind_of_error {first : ExceptT ε (StateM Machine) α}
    {next : α → ExceptT ε (StateM Machine) β} {error : ε}
    (hfirst : first.run.run machine = (.error error, last)) :
    (first >>= next).run.run machine = (.error error, last) := by
  rw [ExceptT.run_bind, run_bind, hfirst]
  rfl

/-- A step that cannot fail among steps that may. -/
theorem run_lift {step : StateM Machine α} {value : α} (hstep : step.run machine = (value, last)) :
    (liftM step : ExceptT ε (StateM Machine) α).run.run machine = (.ok value, last) := by
  change (step >>= fun value ↦ pure (Except.ok value)).run machine = _
  rw [run_bind, hstep]
  rfl

/-- A step whose errors are failures of a kind ends as the step does. -/
theorem run_orFail {kind : ε → Failure} {step : StateM Machine (Except ε α)}
    {ended : Except ε α} (hstep : step.run machine = (ended, last)) :
    (orFail kind step).run.run machine = (ended.mapError kind, last) := by
  rw [orFail, run_bind_of_ok (run_lift hstep)]
  cases ended <;> rfl

/-- A step whose value is not asked for. -/
theorem run_discard {step : ExceptT ε (StateM Machine) α} {ended : Except ε α}
    (hstep : step.run.run machine = (ended, last)) :
    (discard step).run.run machine = (ended.map fun _ ↦ (), last) := by
  change (step >>= fun _ ↦ pure ()).run.run machine = _
  cases ended with
  | error error => exact run_bind_of_error hstep
  | ok value => exact run_bind_of_ok hstep

end Steps

/-! ### How a simulation may end -/

/-- How the delivery of a picture file to a path may end. -/
inductive Delivery (machine : Machine) (path : Path) (contents : List UInt8) :
    Except Failure Unit → Machine → Prop
  /-- The directories on the way cannot all be made. -/
  | blocked {error : FileError} {files : FileSystem}
      (hparents : (environment.makeParents path).run machine =
        (.error error, { machine with files }))
      (hmade : DirectoriesMade path.leading machine.files files) :
    Delivery machine path contents
      (.error (.picture (.directory (path.parent?.getD path)))) { machine with files }
  /-- The directories are there, but not the file. -/
  | unwritten {error : FileError} {files : FileSystem}
      (hparents : (environment.makeParents path).run machine = (.ok (), { machine with files }))
      (hmade : DirectoriesMade path.leading machine.files files)
      (hwrite : files.write path contents = .error error) :
    Delivery machine path contents (.error (.picture (.file path))) { machine with files }
  | written {between files : FileSystem}
      (hparents : (environment.makeParents path).run machine =
        (.ok (), { machine with files := between }))
      (hmade : DirectoriesMade path.leading machine.files between)
      (hwrite : between.write path contents = .ok files)
      (hwritten : FileWritten path contents between files) :
    Delivery machine path contents (.ok ()) { machine with files }

/-- Writing the picture file of a transport text. -/
theorem writePicture_delivers (config : Config) (file : String) (contents : List UInt8)
    (machine : Machine) :
    ∃ ended last, (writePicture environment config file (Base64.encode contents)).run.run machine =
        (ended, last) ∧
      Delivery machine (config.outputPath machine.home? file) contents
        ((ended.mapError .picture).map fun _ ↦ ()) last := by
  have hhome : environment.home?.run machine = (machine.home?, machine) := rfl
  unfold writePicture
  rw [run_bind_of_ok (run_lift hhome)]
  simp only [Base64.decode_encode]
  obtain ⟨made, between, hparents, hmade⟩ :=
    makeParents_made (config.outputPath machine.home? file) machine
  rw [run_bind_of_ok (run_lift hparents)]
  rcases made with error | _
  · exact ⟨_, _, rfl, .blocked hparents hmade⟩
  simp only
  rcases hwrite : between.write (config.outputPath machine.home? file) contents with error | files
  · have hrun : (environment.write (config.outputPath machine.home? file) contents).run
        { machine with files := between } = (.error error, { machine with files := between }) :=
      run_write_error hwrite
    rw [run_bind_of_ok (run_lift hrun)]
    exact ⟨_, _, rfl, .unwritten hparents hmade hwrite⟩
  · have hrun : (environment.write (config.outputPath machine.home? file) contents).run
        { machine with files := between } = (.ok (), { machine with files }) :=
      run_write_ok hwrite
    rw [run_bind_of_ok (run_lift hrun)]
    exact ⟨_, _, rfl, .written hparents hmade hwrite (write_written hwrite)⟩

/-- The delivery of a file prints nothing. -/
theorem Delivery.printed_eq {machine last : Machine} {path : Path} {contents : List UInt8}
    {ended : Except Failure Unit} (hdelivery : Delivery machine path contents ended last) :
    last.printed = machine.printed := by
  cases hdelivery <;> rfl

end Program

end PageCapture
