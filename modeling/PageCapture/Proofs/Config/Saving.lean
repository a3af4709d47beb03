import PageCapture.Proofs.CommandLine.Simulation
import PageCapture.Proofs.Form.Section
import PageCapture.Proofs.Toml.RoundTrip

/-!
# Saved configurations

A configuration is loaded from the file that it was saved to as it was, or refused if it is not
valid (`Config.load_saved`). The text that is saved lays out the sections of the configuration,
whatever characters its texts have (`Config.lays_text`), and the form in which they are written does
not matter: from any layout the configuration is loaded alike (`Config.load_of_lays`). Nothing that
is loaded is invalid, whatever the files and the values that take the place of theirs
(`Config.load_yields`, `Config.loadWithOverrides_yields`).
-/

set_option autoImplicit false
set_option relaxedAutoImplicit false

namespace PageCapture

open Machine Toml

/-! ### Steps that yield values of a kind -/

namespace Machine

variable {ε α β : Type}

/-- A step that may fail yields only values of a kind. -/
def Yields (kind : α → Prop) (step : ExceptT ε (StateM Machine) α) : Prop :=
  ∀ machine last value, step.run.run machine = (.ok value, last) → kind value

theorem Yields.bind {kind : β → Prop} {first : ExceptT ε (StateM Machine) α}
    {next : α → ExceptT ε (StateM Machine) β} (hnext : ∀ value, Yields kind (next value)) :
    Yields kind (first >>= next) := by
  intro machine last value hrun
  obtain ⟨ended, between, hfirst⟩ : ∃ ended between,
      first.run.run machine = (ended, between) := ⟨_, _, rfl⟩
  cases ended with
  | error error =>
    rw [Program.run_bind_of_error hfirst] at hrun
    cases hrun
  | ok given =>
    rw [Program.run_bind_of_ok hfirst] at hrun
    exact hnext given _ _ _ hrun

theorem Yields.pure {kind : α → Prop} {value : α} (hvalue : kind value) :
    Yields kind (pure value : ExceptT ε (StateM Machine) α) := by
  rintro machine last given hrun
  cases hrun
  exact hvalue

theorem yields_throw (kind : α → Prop) (error : ε) :
    Yields kind (throw error : ExceptT ε (StateM Machine) α) := by
  rintro machine last given hrun
  cases hrun

end Machine

/-! ### Texts of configurations -/

theorem isInt64_toInt (n : Int32) : isInt64 n.toInt = true := by
  have hlower := Int32.le_toInt n
  have hupper := Int32.toInt_lt n
  simp only [isInt64, Bool.and_eq_true, decide_eq_true_eq]
  omega

namespace Config

/-- The sections of a configuration with their members. -/
def sections (config : Config) : Sections := [
  ("capture", [
    ("max_dimension", .integer config.capture.maxDimension.toInt),
    ("sample_inset", .integer config.capture.sampleInset.toInt),
    ("scrollbar_retention_px", .integer config.capture.scrollbarRetention.toInt)]),
  ("window", [("content_class", .text config.window.contentClass)]),
  ("output", [("directory", .text config.output.directory)])]

theorem write_eq_ofSections (config : Config) : Form.write config = ofSections config.sections :=
  rfl

theorem sections_named (config : Config) : Named config.sections where
  nodup := show ["capture", "window", "output"].Nodup by decide
  bare := by
    simp only [sections, List.forall_mem_cons]
    exact ⟨by decide, by decide, by decide, nofun⟩

theorem members_named (config : Config) : ∀ entry ∈ config.sections, Named entry.2 := by
  have hsingle : ∀ {name : String} (datum : Datum), Bare name → Named [(name, datum)] :=
    fun datum hname ↦ ⟨List.nodup_cons.mpr ⟨nofun, List.nodup_nil⟩, by simpa using hname⟩
  simp only [sections, List.forall_mem_cons]
  refine ⟨⟨show ["max_dimension", "sample_inset", "scrollbar_retention_px"].Nodup by decide, ?_⟩,
    hsingle _ (by decide), hsingle _ (by decide), nofun⟩
  simp only [List.forall_mem_cons]
  exact ⟨by decide, by decide, by decide, nofun⟩

theorem members_scalar (config : Config) :
    ∀ entry ∈ config.sections, ∀ member ∈ entry.2, Scalar member.2 := by
  simp only [sections, List.forall_mem_cons]
  exact ⟨⟨.integer (isInt64_toInt _), .integer (isInt64_toInt _), .integer (isInt64_toInt _),
    nofun⟩, ⟨.text _, nofun⟩, ⟨.text _, nofun⟩, nofun⟩

/-- The text of a configuration lays out its sections. -/
theorem lays_text (config : Config) : Lays config.sections config.text.toList := by
  rw [text, write_eq_ofSections]
  exact lays_write config.members_scalar

/-- A configuration is read from any text that lays out its sections. -/
theorem ofText?_of_lays {config : Config} {text : String}
    (hlays : Lays config.sections text.toList) : ofText? text = some config := by
  rw [ofText?, hlays.read?_eq config.sections_named config.members_named, ← write_eq_ofSections,
    Option.bind_some, read?_write]

/-! ### Loading -/

/-- The check of a configuration, by what is wrong with it. -/
theorem checked_eq_ok {config : Config} (hvalid : config.validate = .ok ()) :
    config.checked = .ok config := by
  rw [checked, hvalid]

theorem checked_eq_error {config : Config} {error : ConfigError}
    (herror : config.validate = .error error) : config.checked = .error (.invalid error) := by
  rw [checked, herror]

theorem validate_of_checked {config given : Config} (hchecked : config.checked = .ok given) :
    given.validate = .ok () := by
  unfold checked at hchecked
  split at hchecked
  · next hvalid =>
    cases hchecked
    exact hvalid
  · cases hchecked

/-- A file that is named is found if it can be read. -/
theorem findFile_of_read {path : String} {contents : List UInt8} {machine : Machine}
    (hpath : path.toList.head? ≠ some '~')
    (hfile : machine.files.read (Path.ofText path) = .ok contents) :
    (findFile environment (some path)).run.run machine = (.ok (some path), machine) := by
  have hpresent : machine.files.isPresent (Path.ofText path) = true := by
    obtain ⟨entry, hfind, -⟩ := exists_of_bind hfile
    rw [FileSystem.isPresent, hfind]
  have hhome : environment.home?.run machine = (machine.home?, machine) := rfl
  have hcheck : (environment.isPresent (Path.ofText path)).run machine =
      (machine.files.isPresent (Path.ofText path), machine) := rfl
  rw [hpresent] at hcheck
  unfold findFile
  rw [Program.run_bind_of_ok (Program.run_lift hhome)]
  simp only [expandHome_of_head?_ne machine.home? hpath]
  rw [Program.run_bind_of_ok (Program.run_lift hcheck)]
  rfl

/-- What is loaded from a file with a configuration in its text. -/
theorem load_of_lays {config : Config} {path text : String} {machine : Machine}
    (hpath : path.toList.head? ≠ some '~')
    (hfile : machine.files.read (Path.ofText path) = .ok (Utf8.encode text))
    (hlays : Lays config.sections text.toList) :
    (load environment (some path)).run.run machine = (config.checked, machine) := by
  have hread : (environment.readText? (Path.ofText path)).run machine =
      (some text, machine) := by
    have hcontents : (environment.read (Path.ofText path)).run machine =
        (machine.files.read (Path.ofText path), machine) := rfl
    rw [Environment.readText?, run_bind, hcontents, hfile]
    exact congrArg (·, machine) (Utf8.decode?_encode text)
  unfold load
  rw [Program.run_bind_of_ok (findFile_of_read hpath hfile)]
  simp only
  rw [Program.run_bind_of_ok (Program.run_lift hread)]
  simp only [ofText?_of_lays hlays]
  cases config.checked <;> rfl

/-- What is loaded from the file that a configuration was saved to. -/
theorem load_of_save {config : Config} {path : String} {machine saved : Machine}
    (hpath : path.toList.head? ≠ some '~')
    (hsave : (save environment config (Path.ofText path)).run machine = (.ok (), saved)) :
    (load environment (some path)).run.run saved = (config.checked, saved) := by
  rcases hwrite : machine.files.write (Path.ofText path) (Utf8.encode config.text) with
    error | files
  · have hrun : (save environment config (Path.ofText path)).run machine =
        (.error error, machine) := run_write_error hwrite
    rw [hrun] at hsave
    cases hsave
  · have hrun : (save environment config (Path.ofText path)).run machine =
        (.ok (), { machine with files }) := run_write_ok hwrite
    rw [hrun] at hsave
    cases hsave
    exact load_of_lays hpath (FileSystem.write_written hwrite).read config.lays_text

/-! ### What is loaded is valid -/

theorem checked_yields (config : Config) :
    Yields (fun given ↦ given.validate = .ok ())
      (liftM config.checked : ExceptT LoadError (StateM Machine) Config) := by
  cases hchecked : config.checked with
  | error error => exact yields_throw _ error
  | ok given => exact Yields.pure (validate_of_checked hchecked)

theorem load_yields (path? : Option String) :
    Yields (fun config ↦ config.validate = .ok ()) (load environment path?) := by
  refine Yields.bind fun place? ↦ ?_
  cases place? with
  | none => exact Yields.pure rfl
  | some place =>
    refine Yields.bind fun text? ↦ ?_
    cases text? with
    | none => exact yields_throw _ _
    | some text =>
      cases hconfig : ofText? text with
      | none =>
        simp only [hconfig]
        exact yields_throw _ _
      | some config =>
        simp only [hconfig]
        exact checked_yields config

theorem loadWithOverrides_yields (path? : Option String) (overrides : Overrides) :
    Yields (fun config ↦ config.validate = .ok ())
      (loadWithOverrides environment path? overrides) :=
  Yields.bind fun config ↦ checked_yields (config.withOverrides overrides)

/-! ### Saving and loading -/

/-- A configuration is loaded from a file if it is valid, and else what is wrong with it is told.
The machine stays as it is. -/
structure LoadedFrom (machine : Machine) (path : String) (config : Config) : Prop where
  valid : config.validate = .ok () →
    (load environment (some path)).run.run machine = (.ok config, machine)
  invalid : ∀ error, config.validate = .error error →
    (load environment (some path)).run.run machine = (.error (.invalid error), machine)

theorem loadedFrom_of_checked {machine : Machine} {path : String} {config : Config}
    (hload : (load environment (some path)).run.run machine = (config.checked, machine)) :
    LoadedFrom machine path config where
  valid hvalid := by rw [hload, checked_eq_ok hvalid]
  invalid error herror := by rw [hload, checked_eq_error herror]

/-- Saving and loading agree. What is saved to a path that starts with no tilde is loaded from it,
and so is every file whose text lays out the sections of a configuration, in whatever form its texts
are written. Every configuration that is loaded is valid, with and without values in place of its
own. -/
theorem load_saved :
    (∀ (config : Config) (path : String) (machine saved : Machine),
      path.toList.head? ≠ some '~' →
        (save environment config (Path.ofText path)).run machine = (.ok (), saved) →
          LoadedFrom saved path config) ∧
      (∀ (config : Config) (path text : String) (machine : Machine),
        path.toList.head? ≠ some '~' →
          machine.files.read (Path.ofText path) = .ok (Utf8.encode text) →
            Lays config.sections text.toList → LoadedFrom machine path config) ∧
      (∀ (path? : Option String) (machine last : Machine) (config : Config),
        (load environment path?).run.run machine = (.ok config, last) →
          config.validate = .ok ()) ∧
      ∀ (path? : Option String) (overrides : Overrides) (machine last : Machine) (config : Config),
        (loadWithOverrides environment path? overrides).run.run machine = (.ok config, last) →
          config.validate = .ok () :=
  ⟨fun _ _ _ _ hpath hsave ↦ loadedFrom_of_checked (load_of_save hpath hsave),
    fun _ _ _ _ hpath hfile hlays ↦ loadedFrom_of_checked (load_of_lays hpath hfile hlays),
    fun path? machine last config hload ↦ load_yields path? machine last config hload,
    fun path? overrides machine last config hload ↦
      loadWithOverrides_yields path? overrides machine last config hload⟩

/-- A configuration whose texts have quotes, a backslash, a line break and control characters. -/
def escaping : Config where
  window := { contentClass := "'\"\\\n\x01" }
  output := { directory := "\"\"\"\t\x7f'''" }

/-- A file with a configuration whose class stands between single quotes, and whose directory stands
between three double quotes and goes over two lines. -/
def handwritten : Machine where
  files := { entries := [([Utf8.encode "hand.toml"], .file (Utf8.encode
    ("[capture]\nmax_dimension = 5\nsample_inset = 1\nscrollbar_retention_px = 0\n[window]\n" ++
      "content_class = 'a\\b'\n\n[output]\ndirectory = \"\"\"\nx\ny\"\"\"\n")))] }

/-- The law for both configurations, for one that is refused because its class is blank, and for the
defaults with another class. -/
theorem load_saved_escaping :
    (∃ saved, (save environment escaping (Path.ofText "escaping.toml")).run {} = (.ok (), saved) ∧
      (load environment (some "escaping.toml")).run.run saved = (.ok escaping, saved)) ∧
    (∃ saved, (save environment { window := ⟨"\n"⟩ } (Path.ofText "blank.toml")).run {} =
        (.ok (), saved) ∧
      (load environment (some "blank.toml")).run.run saved =
        (.error (.invalid .blankContentClass), saved)) ∧
    (load environment (some "hand.toml")).run.run handwritten =
      (.ok ⟨⟨5, 1, 0⟩, ⟨"a\\b"⟩, ⟨"x\ny"⟩⟩, handwritten) ∧
    (loadWithOverrides environment none { contentClass := some "Other" }).run.run {} =
        (.ok { window := ⟨"Other"⟩ }, {}) ∧
      ({ window := ⟨"Other"⟩ } : Config).validate = .ok () := by
  have hplain : ∀ c ∈ ['a', '\\', 'b'], isPlain c = true ∧ c ≠ '\'' := by
    simp only [List.forall_mem_cons]
    exact ⟨by decide, by decide, by decide, nofun⟩
  have hclass : Quotes "a\\b" ['\'', 'a', '\\', 'b', '\''] := .literal hplain
  have hdirectory : List.Forall₂ (fun c part ↦ Stands c part ∨ c = '\n' ∧ part = ['\n'])
      "x\ny".toList [['x'], ['\n'], ['y']] :=
    .cons (.inl (.plain rfl (by decide) (by decide))) (.cons (.inr ⟨rfl, rfl⟩)
      (.cons (.inl (.plain rfl (by decide) (by decide))) .nil))
  have hlays : Lays (sections ⟨⟨5, 1, 0⟩, ⟨"a\\b"⟩, ⟨"x\ny"⟩⟩) _ :=
    .entry (.cons (.integer rfl) (.cons (.integer rfl) (.cons (.integer rfl) .nil)))
      (.entry (.cons (.text hclass) .nil)
        (.newline (.entry (.cons (.text (.basicLines hdirectory)) .nil) .nil)))
  obtain ⟨hsaves, hfiles, -, hoverrides⟩ := load_saved
  refine ⟨⟨_, rfl, ?_⟩, ⟨_, rfl, ?_⟩, ?_, rfl, ?_⟩
  · exact (hsaves escaping "escaping.toml" {} _ (by decide) rfl).valid rfl
  · exact (hsaves _ "blank.toml" {} _ (by decide) rfl).invalid _ rfl
  · refine (hfiles _ "hand.toml" _ handwritten (by decide) rfl ?_).valid rfl
    -- The text is compared with the one of the layout, which the layout itself determines.
    refine Eq.mp (congrArg (Lays _) ?_) hlays
    decide +kernel
  · exact hoverrides none { contentClass := some "Other" } {} {} _ rfl

end Config

end PageCapture
