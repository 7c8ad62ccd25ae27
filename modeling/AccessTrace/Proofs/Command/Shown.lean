import AccessTrace.Proofs.Command.Opening

namespace AccessTrace.Command

variable {files : List Path} {d d' : Directory} {w w' : Workspace} {config : Config}

section Histograms

variable (session : Session) (a : HistArguments)

theorem determined_forM {α : Type} {f : α → Run (StateM Workspace) Unit}
    (each : ∀ a, Determined files d (f a)) (all : List α) : Determined files d (all.forM f) := by
  induction all with
  | nil => exact ⟨_, _, does_pure ()⟩
  | cons first rest ih => exact (each first).bind fun _ => ih

theorem determined_printWindow (bounds : Bounds) (upper : Cycle) :
    Determined files d (printWindow session bounds upper a) := by
  refine Determined.bind ⟨_, _, does_logAll _⟩ fun _ => ?_
  split
  · exact ⟨_, _, does_throw _⟩
  · exact Determined.bind ⟨_, _, does_printLine _⟩ fun _ => ⟨_, _, does_pure false⟩
  · refine Determined.bind (determined_forM (fun _ => ⟨_, _, does_printLine _⟩) _) fun _ => ?_
    split
    · exact ⟨_, _, does_throw _⟩
    · exact ⟨_, _, does_pure true⟩

theorem determined_printSteps (bounds : Bounds) (steps : Nat) (upper : Cycle) :
    Determined files d (printSteps session bounds a steps upper) := by
  induction steps generalizing upper with
  | zero => exact ⟨_, _, does_pure ()⟩
  | succ steps ih =>
    refine Determined.bind ⟨_, _, does_printLine ""⟩ fun _ => ?_
    refine (determined_printWindow session a bounds _).bind fun shown => ?_
    cases shown with
    | false => exact ⟨_, _, does_pure ()⟩
    | true => exact ih _

theorem determined_printFrom (bounds : Bounds) (steps : Nat) (upper : Cycle) :
    Determined files d (printFrom session bounds a steps upper) := by
  refine (determined_printWindow session a bounds upper).bind fun shown => ?_
  cases shown with
  | false => exact ⟨_, _, does_pure ()⟩
  | true => exact determined_printSteps session a bounds steps upper

theorem determined_showHist : Determined files d (showHist session a) := by
  unfold showHist
  split
  · exact ⟨_, _, does_printLine noAccesses⟩
  · exact determined_printFrom session a _ a.steps a.cycle

theorem printSteps_input (input : Input) (bounds : Bounds) (steps : Nat) (upper : Cycle) :
    printSteps (m := StateM Workspace) session bounds { a with input } steps upper =
      printSteps session bounds a steps upper := by
  induction steps generalizing upper with
  | zero => rfl
  | succ steps ih =>
    simp only [printSteps, ih]
    rfl

theorem showHist_input (input : Input) :
    showHist (m := StateM Workspace) session { a with input } = showHist session a := by
  simp only [showHist, printFrom, printSteps_input]
  rfl

end Histograms

section Whole

variable {a : Arguments} {result : Except Stop Unit} {text : String}

theorem does_run (apart : LogsApart d.tree files a) (known : ConfigIn d a.configFile config)
    (members : ∀ path, a.configFile = some path → path ∈ files)
    (does : Does files d (carryOut a.command config) result text) :
    Does files d (run a) result text := by
  apply (does_startLog apart).andThen
  apply (does_loadConfig known members).andThen
  exact (does_logAll _).andThen does

theorem carryOut_of_yields (calm : Calm files d w) (apart : LogsApart d.tree files a)
    (members : ∀ path, a.configFile = some path → path ∈ files) (yields : Yields (run a) w () w') :
    ∃ config between, ConfigIn d a.configFile config ∧ Calm files d between ∧
      between.output = w.output ∧ Yields (carryOut a.command config) between () w' := by
  obtain ⟨_, started, starting, rest⟩ := yields_bind_iff.mp yields
  obtain ⟨-, output, calm⟩ := (does_startLog apart).of_yields calm starting
  obtain ⟨config, loaded, loading, rest⟩ := yields_bind_iff.mp rest
  have known := configIn_of_yields calm members loading
  obtain ⟨-, output', calm⟩ := (does_loadConfig known members).of_yields calm loading
  obtain ⟨_, between, logging, rest⟩ := yields_bind_iff.mp rest
  obtain ⟨-, output'', calm⟩ := (does_logAll _).of_yields calm logging
  refine ⟨config, between, known, calm, ?_, rest⟩
  simp only [output'', output', output, String.append_empty]

theorem execute_eq {words : List String} (asked : Arguments.ofWords words = .ok a) :
    Workspace.execute d words =
      (outcomeOf ((run (m := StateM Workspace) a).run.run { directory := d }).1,
        ((run (m := StateM Workspace) a).run.run { directory := d }).2) := by
  simp only [Workspace.execute, runWords, asked]
  rfl

theorem execute_of_does {words : List String} (asked : Arguments.ofWords words = .ok a)
    (does : Does files d (run a) result text) (same : d.AgreesOn files d') :
    (Workspace.execute d' words).1 = outcomeOf result ∧
      (Workspace.execute d' words).2.output = text := by
  obtain ⟨given, printed, -⟩ := does { directory := d' } ⟨same, fun _ none => nomatch none⟩
  rw [execute_eq asked]
  exact ⟨congrArg outcomeOf given, printed.trans String.empty_append⟩

theorem yields_of_execute {words : List String} (asked : Arguments.ofWords words = .ok a)
    (success : (Workspace.execute d words).1.code = 0) :
    Yields (run a) { directory := d } () (Workspace.execute d words).2 := by
  unfold Yields
  simp only [execute_eq asked] at success ⊢
  generalize (run (m := StateM Workspace) a).run.run { directory := d } = ran at success ⊢
  obtain ⟨result, after⟩ := ran
  cases result with
  | ok => rfl
  | error stop => cases stop <;> cases success

/-- The words ask for a command with a configuration from a file or none, and with a log, if any,
that is apart from some files. -/
def Asks (tree : DirectoryTree) (files : List Path) (config : Option Path) (command : Subcommand)
    (words : List String) : Prop :=
  ∃ a, Arguments.ofWords words = .ok a ∧ a.configFile = config ∧ a.command = command ∧
    LogsApart tree files a

/-- Wherever the files are as they are in a directory, a command has this outcome and prints this,
in whatever words it is asked for. -/
def Shows (files : List Path) (d : Directory) (config : Option Path) (command : Subcommand)
    (outcome : Outcome) (text : String) : Prop :=
  ∀ words d', Asks d.tree files config command words → d.AgreesOn files d' →
    (Workspace.execute d' words).1 = outcome ∧ (Workspace.execute d' words).2.output = text

variable {file : Option Path} {command : Subcommand}

theorem shows_of_does (known : ConfigIn d file config)
    (members : ∀ path, file = some path → path ∈ files)
    (does : Does files d (carryOut command config) result text) :
    Shows files d file command (outcomeOf result) text := by
  rintro words d' ⟨a, asked, rfl, rfl, apart⟩ same
  exact execute_of_does asked (does_run apart known members does) same

theorem shows_of_done (known : ConfigIn d file config)
    (members : ∀ path, file = some path → path ∈ files)
    (does : Does files d (carryOut command config) (.ok ()) text) :
    Shows files d file command ⟨0, ""⟩ text :=
  shows_of_does known members does

theorem shows_of_stopped {stop : Stop} (known : ConfigIn d file config)
    (members : ∀ path, file = some path → path ∈ files)
    (does : Does files d (carryOut command config) (.error stop) text) :
    Shows files d file command stop.outcome text :=
  shows_of_does known members does

end Whole

end AccessTrace.Command
