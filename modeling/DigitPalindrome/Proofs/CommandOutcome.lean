import DigitPalindrome.Tool.Standard

/-!
# What a command shows

A command takes its steps in a fixed order, writes each text at the step that produces
it, and the first step that fails decides the failure. `Answers` gives the rules, one
for each path through a command, each stated by the results of the steps the path
takes. An analysis loads the settings before it reads its integer, so a settings failure
wins over a bad integer and carries the context `failed to load settings`. `config`
first finds the settings file, which fails when nothing names one and the platform has
no configuration directory. `config --init` then checks for an existing file and saves
the defaults before it prints anything, and `config` alone reports a settings failure
with no context.

`answers_iff_carriesOut` shows that the rules say what a run does to the streams of any
world it starts from: a command that succeeds adds exactly its answer to standard
output, and one that fails adds nothing to either stream. The main statement,
`main_shows_one_answer`, follows a command line the parser accepts through the program:
the one answer of the rules on standard output with status 0, or `Error: ` and the chain
of the failure on standard error with status 1 and nothing on standard output.
-/

namespace DigitPalindrome

/-! ## Steps on a world -/

section WorldSteps

variable {σ α β : Type}

theorem stateM_run_bind (x : StateM σ α) (f : α → StateM σ β) (s : σ) :
    (x >>= f).run s = (f (x.run s).1).run (x.run s).2 :=
  rfl

theorem stateM_run_get (s : σ) : (get : StateM σ σ).run s = (s, s) :=
  rfl

namespace World

variable (w : World) (path text : String)

@[simp]
theorem fileOps_read_run : (fileOps.read path).run w = (w.disk.read path, w) :=
  rfl

@[simp]
theorem fileOps_pathExists_run :
    (fileOps.pathExists path).run w = (w.disk.pathExists path, w) :=
  rfl

theorem fileOps_createDirAll_run :
    (fileOps.createDirAll path).run w =
      match w.disk.createDirAll path with
      | .ok d => (.ok (), { w with disk := d })
      | .error e => (.error e, w) := by
  simp only [fileOps, stateM_run_bind, stateM_run_get]
  cases w.disk.createDirAll path <;> rfl

theorem fileOps_write_run :
    (fileOps.write path text).run w =
      match w.disk.write path text with
      | .ok d => (.ok (), { w with disk := d })
      | .error e => (.error e, w) := by
  simp only [fileOps, stateM_run_bind, stateM_run_get]
  cases w.disk.write path text <;> rfl

@[simp]
theorem toStdout_empty : w.toStdout "" = w := by
  cases w
  simp only [toStdout, String.append_empty]

@[simp]
theorem toStdout_toStdout (more : String) :
    (w.toStdout text).toStdout more = w.toStdout (text ++ more) := by
  simp only [toStdout, String.append_assoc]

end World

end WorldSteps

/-! ## Settings leave the streams alone -/

namespace Settings

variable (read : String → Except String Settings) (w : World)

theorem loadFrom_keeps_world (path : String) :
    ((loadFrom World.fileOps read path).run w).2 = w := by
  unfold loadFrom
  simp only [stateM_run_bind, World.fileOps_read_run]
  split
  · rfl
  · split <;> rfl

theorem load_keeps_world (named configDir : Option String) :
    ((load World.fileOps read named configDir).run w).2 = w := by
  unfold load
  cases named with
  | some path =>
      exact loadFrom_keeps_world read w path
  | none =>
      cases configDir with
      | none =>
          rfl
      | some dir =>
          simp only [stateM_run_bind, World.fileOps_pathExists_run]
          by_cases present : w.disk.pathExists (fileIn dir) = true
          · simp only [present, if_true]
            exact loadFrom_keeps_world read w (fileIn dir)
          · simp only [present]
            rfl

/-- Saving changes the working directory and nothing else. -/
theorem saveTo_changes_only_disk (s : Settings) (path : String) :
    ∃ d, ((saveTo World.fileOps s path).run w).2 = { w with disk := d } := by
  unfold saveTo
  -- the directory is created only when the path has a parent, and the file is written
  -- only when that succeeds
  cases pathParent path with
  | none =>
      simp only [stateM_run_bind, World.fileOps_write_run]
      cases w.disk.write path s.toJson.render <;> exact ⟨_, rfl⟩
  | some parent =>
      simp only [stateM_run_bind, World.fileOps_createDirAll_run]
      cases w.disk.createDirAll parent with
      | error e =>
          exact ⟨w.disk, rfl⟩
      | ok d =>
          simp only [stateM_run_bind, World.fileOps_write_run]
          cases d.write path s.toJson.render <;> exact ⟨_, rfl⟩

end Settings

theorem ConfigError.chain_ne_nil (e : ConfigError) : e.chain ≠ [] := by
  cases e <;> simp [ConfigError.chain]

namespace Tool

/-- The integer an analysis reads; nothing for `config`. -/
def Task.integer? : Task → Option String
  | .check integer _ | .longest integer _ => some integer
  | .config _ _ => none

/-- The line `config` prints before the settings unless it is quiet: the settings
file, and whether it is missing. -/
def settingsHeader (d : Disk) (path : String) (quiet : Bool) : String :=
  if quiet then ""
  else
    "ℹ Settings file: " ++ path ++
      (if d.pathExists path then "" else " (not present, showing defaults)") ++ "\n"

/-! ## One equation per step of a command -/

section Steps

variable (plat : Platform) (w : World)

theorem loadSettings_run (named : Option String) :
    (loadSettings World.fileOps plat named).run w =
      (match ((Settings.load World.fileOps plat.readSettings named plat.configDir).run w).1 with
        | .ok s => .ok s
        | .error e => .error ("failed to load settings" :: e.chain), w) := by
  unfold loadSettings
  rw [stateM_run_bind, Settings.load_keeps_world]
  cases ((Settings.load World.fileOps plat.readSettings named plat.configDir).run w).1 <;> rfl

theorem analyze_run (integer : String) (report : DigitSeq → String) :
    (analyze World.console integer report).run w =
      match DigitSeq.parse integer with
      | .error e => (.error [e.message], w)
      | .ok seq => (.ok (), w.toStdout (report seq)) := by
  unfold analyze
  cases DigitSeq.parse integer <;> rfl

theorem writeDefaults_run (path : String) (force quiet : Bool) :
    (writeDefaults World.fileOps World.console path force quiet).run w =
      if w.disk.pathExists path = true ∧ force = false then
        (.error ["settings file " ++ path ++ " already exists (use --force to overwrite)"], w)
      else
        match ((Settings.saveTo World.fileOps Settings.defaults path).run w).1 with
        | .error e =>
          (.error e.chain, ((Settings.saveTo World.fileOps Settings.defaults path).run w).2)
        | .ok _ =>
          (.ok (), ((Settings.saveTo World.fileOps Settings.defaults path).run w).2.toStdout
            (if quiet then "" else "✓ Wrote default settings to " ++ path ++ "\n")) := by
  unfold writeDefaults
  simp only [stateM_run_bind, World.fileOps_pathExists_run]
  by_cases refused : w.disk.pathExists path = true ∧ force = false
  · obtain ⟨present, notForced⟩ := refused
    simp only [present, notForced, Bool.not_false, Bool.and_self, if_true, and_self]
    rfl
  · rw [if_neg refused]
    have allowed : (w.disk.pathExists path && !force) = false := by
      cases present : w.disk.pathExists path <;> cases force <;> simp_all
    simp only [allowed, Bool.false_eq_true, if_false, stateM_run_bind]
    cases ((Settings.saveTo World.fileOps Settings.defaults path).run w).1 with
    | error e =>
        rfl
    | ok done =>
        cases quiet with
        | false =>
            rfl
        | true =>
            -- a quiet run prints nothing after saving
            exact (congrArg (Prod.mk (Except.ok ())) (World.toStdout_empty _)).symm

theorem showSettings_run (named : Option String) (path : String) (quiet : Bool) :
    (showSettings World.fileOps World.console plat named path quiet).run w =
      match ((Settings.load World.fileOps plat.readSettings named plat.configDir).run w).1 with
      | .error e => (.error e.chain, w)
      | .ok s =>
        (.ok (), w.toStdout (settingsHeader w.disk path quiet ++ (s.toJson.render ++ "\n"))) := by
  unfold showSettings
  rw [stateM_run_bind, Settings.load_keeps_world]
  cases ((Settings.load World.fileOps plat.readSettings named plat.configDir).run w).1 with
  | error e =>
      rfl
  | ok s =>
      -- the line naming the file is one write and the settings another
      dsimp only
      rw [← World.toStdout_toStdout]
      cases quiet with
      | false =>
          rfl
      | true =>
          have noHeader : settingsHeader w.disk path true = "" := rfl
          rw [noHeader, World.toStdout_empty]
          rfl

theorem configure_run (named : Option String) (init force quiet : Bool) :
    (configure World.fileOps World.console plat named init force quiet).run w =
      match Settings.resolvePath named plat.configDir with
      | .error e => (.error e.chain, w)
      | .ok path =>
        if init then (writeDefaults World.fileOps World.console path force quiet).run w
        else (showSettings World.fileOps World.console plat named path quiet).run w := by
  unfold configure
  cases Settings.resolvePath named plat.configDir with
  | error e =>
      rfl
  | ok path =>
      cases init <;> rfl

variable {plat w} {inv : Invocation}

theorem run_of_config {init force : Bool} (configuring : inv.task = .config init force) :
    run World.fileOps World.console plat inv =
      configure World.fileOps World.console plat inv.configPath init force inv.quiet := by
  unfold run
  rw [configuring]

theorem run_of_init {force : Bool} {path : String} (init : inv.task = .config true force)
    (resolved : Settings.resolvePath inv.configPath plat.configDir = .ok path) :
    (run World.fileOps World.console plat inv).run w =
      (writeDefaults World.fileOps World.console path force inv.quiet).run w := by
  rw [run_of_config init, configure_run, resolved]
  rfl

theorem run_of_show {force : Bool} {path : String} (showing : inv.task = .config false force)
    (resolved : Settings.resolvePath inv.configPath plat.configDir = .ok path) :
    (run World.fileOps World.console plat inv).run w =
      (showSettings World.fileOps World.console plat inv.configPath path inv.quiet).run w := by
  rw [run_of_config showing, configure_run, resolved]
  rfl

theorem run_of_analysis {integer : String} (analysis : inv.task.integer? = some integer) :
    (run World.fileOps World.console plat inv).run w =
      match ((Settings.load World.fileOps plat.readSettings inv.configPath plat.configDir).run w).1
      with
      | .error e => (.error ("failed to load settings" :: e.chain), w)
      | .ok s => (analyze World.console integer (inv.task.report s)).run w := by
  obtain ⟨quiet, configPath, task⟩ := inv
  -- an analysis task is `check` or `longest`; both load the settings, then analyze
  cases task with
  | check given format | longest given format =>
      cases analysis
      unfold run
      dsimp only
      rw [stateM_run_bind, loadSettings_run]
      cases ((Settings.load World.fileOps plat.readSettings configPath plat.configDir).run w).1 <;>
        rfl
  | config init force =>
      cases analysis

theorem run_of_loaded {integer : String} {s : Settings}
    (analysis : inv.task.integer? = some integer)
    (loaded : ((Settings.load World.fileOps plat.readSettings inv.configPath
      plat.configDir).run w).1 = .ok s) :
    (run World.fileOps World.console plat inv).run w =
      (analyze World.console integer (inv.task.report s)).run w := by
  rw [run_of_analysis analysis, loaded]

end Steps

/-! ## The rules -/

/-- What a command answers from a world, on a platform: its output, or the chain of its
failure. Each rule is one path through the command, stated by the results of the steps
it takes. -/
inductive Answers (plat : Platform) (w : World) (inv : Invocation) :
    Except Failure String → Prop
  /-- Settings that cannot be loaded stop an analysis whatever its integer. -/
  | settingsFailed {integer : String} {e : ConfigError}
      (analysis : inv.task.integer? = some integer)
      (failed : ((Settings.load World.fileOps plat.readSettings inv.configPath
        plat.configDir).run w).1 = .error e) :
      Answers plat w inv (.error ("failed to load settings" :: e.chain))
  /-- With the settings loaded, an integer that cannot be read stops an analysis. -/
  | integerRejected {integer : String} {s : Settings} {e : AnalysisError}
      (analysis : inv.task.integer? = some integer)
      (loaded : ((Settings.load World.fileOps plat.readSettings inv.configPath
        plat.configDir).run w).1 = .ok s)
      (rejected : DigitSeq.parse integer = .error e) :
      Answers plat w inv (.error [e.message])
  /-- With the settings loaded and the integer read, an analysis writes its report. -/
  | reported {integer : String} {s : Settings} {seq : DigitSeq}
      (analysis : inv.task.integer? = some integer)
      (loaded : ((Settings.load World.fileOps plat.readSettings inv.configPath
        plat.configDir).run w).1 = .ok s)
      (parsed : DigitSeq.parse integer = .ok seq) :
      Answers plat w inv (.ok (inv.task.report s seq))
  /-- `config` stops when there is no settings file to work on. -/
  | pathUnresolved {init force : Bool} {e : ConfigError}
      (configuring : inv.task = .config init force)
      (unresolved : Settings.resolvePath inv.configPath plat.configDir = .error e) :
      Answers plat w inv (.error e.chain)
  /-- `config --init` without `--force` stops at an existing file. -/
  | alreadyExists {path : String}
      (init : inv.task = .config true false)
      (resolved : Settings.resolvePath inv.configPath plat.configDir = .ok path)
      (present : w.disk.pathExists path = true) :
      Answers plat w inv
        (.error ["settings file " ++ path ++ " already exists (use --force to overwrite)"])
  /-- Otherwise `config --init` fails when saving fails. -/
  | saveFailed {force : Bool} {path : String} {e : ConfigError}
      (init : inv.task = .config true force)
      (resolved : Settings.resolvePath inv.configPath plat.configDir = .ok path)
      (allowed : ¬ (w.disk.pathExists path = true ∧ force = false))
      (failed : ((Settings.saveTo World.fileOps Settings.defaults path).run w).1 = .error e) :
      Answers plat w inv (.error e.chain)
  /-- Otherwise `config --init` saves, then says so unless it is quiet. -/
  | initialized {force : Bool} {path : String}
      (init : inv.task = .config true force)
      (resolved : Settings.resolvePath inv.configPath plat.configDir = .ok path)
      (allowed : ¬ (w.disk.pathExists path = true ∧ force = false))
      (saved : ((Settings.saveTo World.fileOps Settings.defaults path).run w).1 = .ok ()) :
      Answers plat w inv
        (.ok (if inv.quiet then "" else "✓ Wrote default settings to " ++ path ++ "\n"))
  /-- `config` alone reports settings that cannot be loaded, with no context. -/
  | showFailed {force : Bool} {path : String} {e : ConfigError}
      (showing : inv.task = .config false force)
      (resolved : Settings.resolvePath inv.configPath plat.configDir = .ok path)
      (failed : ((Settings.load World.fileOps plat.readSettings inv.configPath
        plat.configDir).run w).1 = .error e) :
      Answers plat w inv (.error e.chain)
  /-- Otherwise `config` prints the settings file's line and writes the settings. -/
  | shown {force : Bool} {path : String} {s : Settings}
      (showing : inv.task = .config false force)
      (resolved : Settings.resolvePath inv.configPath plat.configDir = .ok path)
      (loaded : ((Settings.load World.fileOps plat.readSettings inv.configPath
        plat.configDir).run w).1 = .ok s) :
      Answers plat w inv
        (.ok (settingsHeader w.disk path inv.quiet ++ (s.toJson.render ++ "\n")))

/-- A run from `w` that ends in `result, after` carries out the answer `r`: it succeeds
having added exactly the output of `r` to standard output and nothing to standard
error, or it fails with the chain of `r` having added nothing to either stream. -/
def CarriesOut (w : World) : Except Failure Unit × World → Except Failure String → Prop
  | (.ok _, after), .ok out => after.stdout = w.stdout ++ out ∧ after.stderr = w.stderr
  | (.error f, after), .error chain =>
    f = chain ∧ after.stdout = w.stdout ∧ after.stderr = w.stderr
  | _, _ => False

/-! ## The rules say what a run writes -/

section Rules

variable {plat : Platform} {w : World} {inv : Invocation} {r : Except Failure String}

/-- Every rule is followed by the run: the path it names writes its answer. -/
theorem Answers.carriedOut (answers : Answers plat w inv r) :
    CarriesOut w ((run World.fileOps World.console plat inv).run w) r := by
  cases answers with
  | settingsFailed analysis failed =>
      rw [run_of_analysis analysis, failed]
      exact ⟨rfl, rfl, rfl⟩
  | integerRejected analysis loaded rejected =>
      rw [run_of_loaded analysis loaded, analyze_run, rejected]
      exact ⟨rfl, rfl, rfl⟩
  | reported analysis loaded parsed =>
      rw [run_of_loaded analysis loaded, analyze_run, parsed]
      exact ⟨rfl, rfl⟩
  | pathUnresolved configuring unresolved =>
      rw [run_of_config configuring, configure_run, unresolved]
      exact ⟨rfl, rfl, rfl⟩
  | alreadyExists init resolved present =>
      rw [run_of_init init resolved, writeDefaults_run, if_pos ⟨present, rfl⟩]
      exact ⟨rfl, rfl, rfl⟩
  | saveFailed init resolved allowed failed =>
      obtain ⟨d, saving⟩ := Settings.saveTo_changes_only_disk w Settings.defaults _
      rw [run_of_init init resolved, writeDefaults_run, if_neg allowed, failed, saving]
      exact ⟨rfl, rfl, rfl⟩
  | initialized init resolved allowed saved =>
      obtain ⟨d, saving⟩ := Settings.saveTo_changes_only_disk w Settings.defaults _
      rw [run_of_init init resolved, writeDefaults_run, if_neg allowed, saved, saving]
      exact ⟨rfl, rfl⟩
  | showFailed showing resolved failed =>
      rw [run_of_show showing resolved, showSettings_run, failed]
      exact ⟨rfl, rfl, rfl⟩
  | shown showing resolved loaded =>
      rw [run_of_show showing resolved, showSettings_run, loaded]
      exact ⟨rfl, rfl⟩

/-- Some rule applies to every command, whatever the results of its steps. -/
theorem answers_exist (plat : Platform) (w : World) (inv : Invocation) :
    ∃ r, Answers plat w inv r := by
  -- split as the command does: on the task, then on each step's result in turn
  cases task : inv.task with
  | check integer format | longest integer format =>
      have analysis : inv.task.integer? = some integer := by
        rw [task]
        rfl
      cases loaded : ((Settings.load World.fileOps plat.readSettings inv.configPath
          plat.configDir).run w).1 with
      | error e =>
          exact ⟨_, .settingsFailed analysis loaded⟩
      | ok s =>
          cases parsed : DigitSeq.parse integer with
          | error e =>
              exact ⟨_, .integerRejected analysis loaded parsed⟩
          | ok seq =>
              exact ⟨_, .reported analysis loaded parsed⟩
  | config init force =>
      cases resolved : Settings.resolvePath inv.configPath plat.configDir with
      | error e =>
          exact ⟨_, .pathUnresolved task resolved⟩
      | ok path =>
          cases init with
          | true =>
              by_cases refused : w.disk.pathExists path = true ∧ force = false
              · obtain ⟨present, rfl⟩ := refused
                exact ⟨_, .alreadyExists task resolved present⟩
              · cases saving :
                    ((Settings.saveTo World.fileOps Settings.defaults path).run w).1 with
                | error e =>
                    exact ⟨_, .saveFailed task resolved refused saving⟩
                | ok done =>
                    exact ⟨_, .initialized task resolved refused saving⟩
          | false =>
              cases loaded : ((Settings.load World.fileOps plat.readSettings inv.configPath
                  plat.configDir).run w).1 with
              | error e =>
                  exact ⟨_, .showFailed task resolved loaded⟩
              | ok s =>
                  exact ⟨_, .shown task resolved loaded⟩

/-- What a run writes decides the answer it carries out. -/
theorem CarriesOut.unique {outcome : Except Failure Unit × World} {r' : Except Failure String}
    (carried : CarriesOut w outcome r) (carried' : CarriesOut w outcome r') : r = r' := by
  obtain ⟨result, after⟩ := outcome
  cases result with
  | ok done =>
      cases r with
      | error chain =>
          exact False.elim carried
      | ok out =>
          cases r' with
          | error chain =>
              exact False.elim carried'
          | ok out' =>
              -- standard output after the run ends in what was added to it
              rw [(String.append_right_inj w.stdout).mp (carried.1.symm.trans carried'.1)]
  | error f =>
      cases r with
      | ok out =>
          exact False.elim carried
      | error chain =>
          cases r' with
          | ok out =>
              exact False.elim carried'
          | error chain' =>
              rw [← carried.1, ← carried'.1]

/-- The rules give exactly what a run writes: one answer, no other. -/
theorem answers_iff_carriesOut :
    Answers plat w inv r ↔ CarriesOut w ((run World.fileOps World.console plat inv).run w) r := by
  constructor
  · exact Answers.carriedOut
  · intro carried
    obtain ⟨answer, answers⟩ := answers_exist plat w inv
    rw [carried.unique answers.carriedOut]
    exact answers

theorem Answers.chain_ne_nil {chain : Failure} (answers : Answers plat w inv (.error chain)) :
    chain ≠ [] := by
  cases answers with
  | settingsFailed analysis failed =>
      exact List.cons_ne_nil _ _
  | integerRejected analysis loaded rejected =>
      exact List.cons_ne_nil _ _
  | pathUnresolved configuring unresolved =>
      exact ConfigError.chain_ne_nil _
  | alreadyExists init resolved present =>
      exact List.cons_ne_nil _ _
  | saveFailed init resolved allowed failed =>
      exact ConfigError.chain_ne_nil _
  | showFailed showing resolved failed =>
      exact ConfigError.chain_ne_nil _

end Rules

/-! ## What the program shows -/

/-- The exit status and final world of a program started from `w` show one answer of a
command: the only answer the rules give, either added to standard output with status 0
and nothing added to standard error, or as `Error: ` and the chain of the failure, joined
by `: `, added to standard error with status 1 and nothing added to standard output. -/
def ShowsAnswer (plat : Platform) (w : World) (inv : Invocation) : Nat × World → Prop
  | (exit, after) =>
    (∃ out, (∀ r, Answers plat w inv r ↔ r = .ok out) ∧
      exit = 0 ∧ after.stdout = w.stdout ++ out ∧ after.stderr = w.stderr) ∨
    (∃ chain, (∀ r, Answers plat w inv r ↔ r = .error chain) ∧ chain ≠ [] ∧
      exit = 1 ∧ after.stdout = w.stdout ∧
      after.stderr = w.stderr ++ ("Error: " ++ ": ".intercalate chain ++ "\n"))

section Program

variable (plat : Platform) (w : World) {parseArgs : List String → Except Outcome Invocation}
  {args : List String} {inv : Invocation}

theorem main_run_of_accepted (accepted : (parseArgs args).toOption = some inv) :
    (main World.fileOps World.console plat parseArgs args).run w =
      match (run World.fileOps World.console plat inv).run w with
      | (.ok _, after) => (0, after)
      | (.error f, after) => (1, after.toStderr f.render) := by
  unfold main
  cases parsed : parseArgs args with
  | error stop =>
      rw [parsed] at accepted
      cases accepted
  | ok found =>
      rw [parsed] at accepted
      cases accepted
      simp only [stateM_run_bind]
      generalize (run World.fileOps World.console plat inv).run w = outcome
      obtain ⟨result, after⟩ := outcome
      cases result <;> rfl

/-- On every platform and from every world, a command line the parser accepts shows one
answer of its command: the steps run in their order and the first that fails decides the
failure, which leaves standard output as it was; a command that does not fail adds its
whole output there. -/
theorem main_shows_one_answer (accepted : (parseArgs args).toOption = some inv) :
    ShowsAnswer plat w inv ((main World.fileOps World.console plat parseArgs args).run w) := by
  obtain ⟨answer, answers⟩ := answers_exist plat w inv
  have unique : ∀ r, Answers plat w inv r ↔ r = answer := fun r =>
    ⟨fun other => other.carriedOut.unique answers.carriedOut, fun same => same ▸ answers⟩
  have carried := answers.carriedOut
  rw [main_run_of_accepted plat w accepted]
  generalize (run World.fileOps World.console plat inv).run w = outcome at carried ⊢
  obtain ⟨result, after⟩ := outcome
  cases result with
  | ok done =>
      cases answer with
      | error chain =>
          exact False.elim carried
      | ok out =>
          exact Or.inl ⟨out, unique, rfl, carried.1, carried.2⟩
  | error f =>
      cases answer with
      | ok out =>
          exact False.elim carried
      | error chain =>
          obtain ⟨same, keptOut, keptErr⟩ := carried
          subst same
          refine Or.inr ⟨f, unique, answers.chain_ne_nil, rfl, keptOut, ?_⟩
          rw [World.toStderr, Failure.render, keptErr]

end Program

/-- `check 121`, with an empty environment and from an empty working directory, is
accepted and shows one answer. -/
theorem check_shows_one_answer :
    (parseCommandLine (fun _ => none) ["check", "121"]).toOption =
        some ⟨false, none, .check "121" none⟩ ∧
      ShowsAnswer (standardPlatform (fun _ => none)) ⟨Disk.empty, "", ""⟩
        ⟨false, none, .check "121" none⟩
        ((main World.fileOps World.console (standardPlatform (fun _ => none))
          (parseCommandLine (fun _ => none)) ["check", "121"]).run ⟨Disk.empty, "", ""⟩) :=
  ⟨by decide +kernel,
    @main_shows_one_answer (standardPlatform (fun _ => none)) ⟨Disk.empty, "", ""⟩
      (parseCommandLine (fun _ => none)) ["check", "121"] ⟨false, none, .check "121" none⟩
      (by decide +kernel)⟩

end Tool

end DigitPalindrome
