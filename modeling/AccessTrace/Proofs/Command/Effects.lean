import AccessTrace.Command.Workspace
import AccessTrace.Proofs.Directory

/-! What a command does, told by its result and by what it prints. Both depend on the files that it
reads, and its log changes neither, as long as it is apart from them. -/

namespace AccessTrace

/-- The given files are alike in two directories of one tree. -/
structure Directory.AgreesOn (files : List Path) (d d' : Directory) : Prop where
  tree : d'.tree = d.tree
  contents : ∀ file ∈ files, ∀ way, d.tree.way? file = some way → d'.find? way = d.find? way

theorem Directory.AgreesOn.refl (files : List Path) (d : Directory) : d.AgreesOn files d :=
  ⟨rfl, fun _ _ _ _ => rfl⟩

/-- What is written by way of the path is seen neither in one of the files nor in print. -/
def DirectoryTree.Unseen (tree : DirectoryTree) (files : List Path) (path : Path) : Prop :=
  tree.place? path ≠ some (.device .output) ∧ ∀ file ∈ files, tree.Apart path file

instance (tree : DirectoryTree) (files : List Path) (path : Path) :
    Decidable (tree.Unseen files path) :=
  inferInstanceAs (Decidable (_ ∧ _))

namespace Command

variable {α β : Type} {files : List Path} {d : Directory}

/-- The given files are as they are in a directory, and the log is not seen in them. -/
structure Calm (files : List Path) (d : Directory) (w : Workspace) : Prop where
  same : d.AgreesOn files w.directory
  log : ∀ log, w.logFile = some log → d.tree.Unseen files log.path

/-- The action gives a result with the property and prints the text, and leaves the files alone. -/
def Acts (files : List Path) (d : Directory) (action : StateM Workspace α) (P : α → Prop)
    (text : String) : Prop :=
  ∀ w, Calm files d w →
    P (action.run w).1 ∧ (action.run w).2.output = w.output ++ text ∧
      Calm files d (action.run w).2

def Does (files : List Path) (d : Directory) (action : Run (StateM Workspace) α)
    (result : Except Stop α) (text : String) : Prop :=
  Acts files d action.run (· = result) text

section Rules

variable {action : StateM Workspace α} {next : α → StateM Workspace β} {P : α → Prop}
  {Q : β → Prop} {text more : String}

theorem acts_pure {a : α} (given : P a) : Acts files d (pure a) P "" :=
  fun _ calm => ⟨given, String.append_empty.symm, calm⟩

theorem Acts.bind (first : Acts files d action P text)
    (second : ∀ a, P a → Acts files d (next a) Q more) :
    Acts files d (action >>= next) Q (text ++ more) := by
  intro w calm
  obtain ⟨given, printed, calm⟩ := first w calm
  obtain ⟨given', printed', calm'⟩ := second _ given _ calm
  refine ⟨given', ?_, calm'⟩
  rw [← String.append_assoc, ← printed]
  exact printed'

theorem Acts.andThen (first : Acts files d action P "")
    (second : ∀ a, P a → Acts files d (next a) Q text) : Acts files d (action >>= next) Q text := by
  have both := first.bind second
  rwa [String.empty_append] at both

theorem Acts.thenSilent (first : Acts files d action P text)
    (second : ∀ a, P a → Acts files d (next a) Q "") : Acts files d (action >>= next) Q text := by
  have both := first.bind second
  rwa [String.append_empty] at both

variable {step : Run (StateM Workspace) α} {rest : α → Run (StateM Workspace) β} {a : α}
  {result : Except Stop β} {stop : Stop}

theorem does_pure (a : α) : Does files d (pure a) (.ok a) "" :=
  acts_pure rfl

theorem does_throw (stop : Stop) : Does files d (throw stop : Run (StateM Workspace) α)
    (.error stop) "" :=
  acts_pure rfl

theorem Does.bind (first : Does files d step (.ok a) text)
    (second : Does files d (rest a) result more) :
    Does files d (step >>= rest) result (text ++ more) := by
  unfold Does
  rw [ExceptT.run_bind]
  apply Acts.bind first
  rintro _ rfl
  exact second

theorem Does.andThen (first : Does files d step (.ok a) "")
    (second : Does files d (rest a) result text) : Does files d (step >>= rest) result text := by
  have both := first.bind second
  rwa [String.empty_append] at both

theorem Does.thenSilent (first : Does files d step (.ok a) text)
    (second : Does files d (rest a) result "") : Does files d (step >>= rest) result text := by
  have both := first.bind second
  rwa [String.append_empty] at both

theorem Does.stopped (first : Does files d step (.error stop) text) :
    Does files d (step >>= rest) (.error stop) text := by
  unfold Does
  rw [ExceptT.run_bind]
  apply Acts.thenSilent first
  rintro _ rfl
  exact acts_pure rfl

theorem does_lift (acts : Acts files d action (· = a) text) :
    Does files d (liftM action : Run (StateM Workspace) α) (.ok a) text := by
  intro w calm
  obtain ⟨given, done⟩ := acts w calm
  exact ⟨congrArg Except.ok given, done⟩

theorem Acts.lift_andThen {rest : α → Run (StateM Workspace) β} (acts : Acts files d action P "")
    (second : ∀ a, P a → Does files d (rest a) result text) :
    Does files d (liftM action >>= rest) result text := by
  intro w calm
  obtain ⟨given, printed, calm⟩ := acts w calm
  obtain ⟨given', printed', calm'⟩ := second _ given _ calm
  rw [printed, String.append_empty] at printed'
  exact ⟨given', printed', calm'⟩

/-- Some result and some text are what the action gives and prints, whatever the workspace. -/
def Determined (files : List Path) (d : Directory) (step : Run (StateM Workspace) α) : Prop :=
  ∃ result text, Does files d step result text

theorem Determined.bind (first : Determined files d step)
    (second : ∀ a, Determined files d (rest a)) : Determined files d (step >>= rest) := by
  obtain ⟨result, text, does⟩ := first
  cases result with
  | error stop => exact ⟨.error stop, text, does.stopped⟩
  | ok a =>
    obtain ⟨result, more, does'⟩ := second a
    exact ⟨result, text ++ more, does.bind does'⟩

end Rules

section Printing

def linesText (lines : List String) : String :=
  String.join (lines.map (· ++ "\n"))

theorem does_printLine (line : String) :
    Does files d (printLine line) (.ok ()) (line ++ "\n") :=
  fun _ calm => ⟨rfl, rfl, calm.same, calm.log⟩

theorem does_printLines (lines : List String) :
    Does files d (lines.forM printLine) (.ok ()) (linesText lines) := by
  induction lines with
  | nil => exact does_pure ()
  | cons line rest ih =>
    have text : linesText (line :: rest) = line ++ "\n" ++ linesText rest := by
      simp [linesText, String.join_cons]
    rw [text]
    exact (does_printLine line).bind ih

end Printing

section Logging

open Workspace

variable {path : Path} {f : List UInt8 → List UInt8}

theorem run_change (path : Path) (f : List UInt8 → List UInt8) (w : Workspace) :
    (onDirectory (Directory.change (·.update path f))).run w =
      match w.directory.update path f with
      | .ok directory => (.ok (), { w with directory })
      | .error error => (.error error, w) := by
  simp only [onDirectory, Directory.change, StateT.run]
  cases w.directory.update path f <;> rfl

theorem run_writing {w : Workspace}
    (place : w.directory.tree.place? path ≠ some (.device .output))
    (octets : List UInt8) (action : StateM Directory (Except OsError Unit)) :
    (writing path octets action).run w = (onDirectory action).run w := by
  have silent : w.directory.isOutput path = false := by
    rw [Bool.eq_false_iff]
    exact fun output => place (Directory.isOutput_eq_true_iff.mp output)
  simp only [writing, StateT.run_bind, StateT.run_get, pure_bind, silent]
  rfl

theorem acts_change (unseen : d.tree.Unseen files path) (f : List UInt8 → List UInt8) :
    Acts files d (onDirectory (Directory.change (·.update path f))) (fun _ => True) "" := by
  intro w calm
  refine ⟨trivial, String.append_empty.symm, ?_, calm.log⟩
  rw [run_change]
  cases changed : w.directory.update path f with
  | error error => exact calm.same
  | ok directory =>
    constructor
    · exact (Directory.tree_update changed).trans calm.same.tree
    · intro file member way leads
      refine (Directory.find?_update changed ?_).trans (calm.same.contents file member way leads)
      rw [calm.same.tree]
      exact fun same => unseen.2 file member way same leads

theorem acts_writing (unseen : d.tree.Unseen files path) (octets : List UInt8)
    (f : List UInt8 → List UInt8) :
    Acts files d (writing path octets (Directory.change (·.update path f))) (fun _ => True) "" := by
  intro w calm
  rw [run_writing (calm.same.tree ▸ unseen.1)]
  exact acts_change unseen f w calm

theorem acts_writeLog {log : LogFile} (unseen : d.tree.Unseen files log.path) (octets : List UInt8) :
    Acts files d (writeLog log octets) (fun _ => True) "" := by
  obtain ⟨path, position⟩ := log
  intro w calm
  cases position with
  | none => exact ⟨trivial, (acts_writing unseen octets (· ++ octets) w calm).2⟩
  | some position =>
    obtain ⟨-, printed, calm⟩ := acts_writing unseen octets (overwrite · position octets) w calm
    refine ⟨trivial, printed, calm.same, ?_⟩
    rintro _ ⟨⟩
    exact unseen

theorem acts_log (event : Event) : Acts files d (Workspace.log event) (fun _ => True) "" := by
  intro w calm
  cases known : w.logFile with
  | none =>
    have run : (Workspace.log event).run w = ((), w) := by
      simp only [Workspace.log, StateT.run_bind, StateT.run_get, pure_bind, known]
      rfl
    rw [run]
    exact ⟨trivial, String.append_empty.symm, calm⟩
  | some log =>
    have run : (Workspace.log event).run w =
        if (Event.entries time [event]).isEmpty then ((), w)
        else (writeLog log (Event.entries time [event])).run w := by
      simp only [Workspace.log, StateT.run_bind, StateT.run_get, pure_bind, known]
      cases (Event.entries time [event]).isEmpty <;> rfl
    rw [run]
    split
    · exact ⟨trivial, String.append_empty.symm, calm⟩
    · exact acts_writeLog (calm.log log known) _ w calm

theorem does_logAll (events : List Event) : Does files d (logAll events) (.ok ()) "" := by
  induction events with
  | nil => exact does_pure ()
  | cons event rest ih =>
    have logged : Does files d (liftM (Console.log event : StateM Workspace Unit)) (.ok ()) "" :=
      does_lift fun w calm => ⟨rfl, (acts_log event w calm).2⟩
    exact logged.andThen ih

theorem acts_logEcho (member : path ∈ files) :
    Acts files d (Workspace.logEcho path) (· = fun _ => []) "" := by
  intro w calm
  refine ⟨?_, String.append_empty.symm, calm⟩
  have apart : (w.logFile.any fun log => w.directory.isSameFile path log.path) = false := by
    cases known : w.logFile with
    | none => rfl
    | some log =>
      have apart := (calm.log log known).2 path member
      exact Directory.isSameFile_of_apart (calm.same.tree ▸ apart)
  have run : ((Workspace.logEcho path).run w).1 =
      if (w.logFile.any fun log => w.directory.isSameFile path log.path) then Event.entries time
      else fun _ => [] := rfl
  rw [run, apart]
  rfl

theorem acts_openLog (unseen : d.tree.Unseen files path) (append : Bool) :
    Acts files d (Workspace.openLog path append) (fun _ => True) "" := by
  have opened : Acts files d (onDirectory (if append then Files.extendFile path []
      else Files.createFile path)) (fun _ => True) "" := by
    cases append with
    | true => exact acts_change unseen (· ++ [])
    | false => exact acts_change unseen fun _ => []
  apply opened.andThen
  intro result _
  cases result with
  | error error => exact acts_pure trivial
  | ok =>
    intro w calm
    refine ⟨trivial, String.append_empty.symm, calm.same, ?_⟩
    rintro _ ⟨⟩
    exact unseen

/-- The log of a command is apart from files that matter to it. -/
def LogsApart (tree : DirectoryTree) (files : List Path) (a : Arguments) : Prop :=
  ∀ log, a.logFile = some log → tree.Unseen files log

theorem does_startLog {a : Arguments} (apart : LogsApart d.tree files a) :
    Does files d (startLog a) (.ok ()) "" := by
  have rest : Does files d (logAll
      [{ level := .debug, component := .arguments, message := s!"Args: {a.label}" }]) (.ok ()) "" :=
    does_logAll _
  unfold startLog
  cases known : a.logFile with
  | none => exact rest
  | some path =>
    have opened : Acts files d (Workspace.openLog path a.logFileAppend) (fun _ => True) "" :=
      acts_openLog (apart path known) a.logFileAppend
    apply opened.lift_andThen
    intro result _
    cases result with
    | ok => exact rest
    | error error => exact (does_logAll _).andThen rest

end Logging

section Opening

variable {ε : Type} {path : Path} {source : Source}

theorem acts_openFile (member : path ∈ files) (opened : d.openFile path = .ok source) :
    Acts files d (Files.openFile path) (· = .ok source) "" := by
  intro w calm
  refine ⟨?_, String.append_empty.symm, calm⟩
  exact Directory.openFile_congr calm.same.tree (calm.same.contents path member) opened

theorem acts_isEndless (path : Path) :
    Acts files d (Files.isEndless path) (· = d.isEndless path) "" :=
  fun _ calm => ⟨Directory.isEndless_congr calm.same.tree, String.append_empty.symm, calm⟩

theorem does_refuseEndless (path : Path) :
    Does files d (refuseEndless path)
      (if d.isEndless path then .error .exhausted else .ok ()) "" := by
  apply (does_lift (acts_isEndless path)).andThen
  cases d.isEndless path with
  | true => exact does_throw .exhausted
  | false => exact does_pure ()

variable {result : StateM Workspace (Except ε α)} {fail : ε → CommandError} {text : String}

theorem does_orFail {a : α} (acts : Acts files d result (· = .ok a) text) :
    Does files d (orFail fail result) (.ok a) text :=
  (does_lift acts).thenSilent (does_pure a)

theorem does_orFail_error {error : ε} (acts : Acts files d result (· = .error error) text) :
    Does files d (orFail (α := α) fail result) (.error (.failed (fail error))) text :=
  (does_lift acts).thenSilent (does_throw (.failed (fail error)))

end Opening

section Success

variable {ε : Type} {w w' : Workspace} {step : Run (StateM Workspace) α}
  {rest : α → Run (StateM Workspace) β} {a : α} {b : β}

def Yields (step : Run (StateM Workspace) α) (w : Workspace) (a : α) (w' : Workspace) : Prop :=
  step.run.run w = (.ok a, w')

theorem run_bind_iff {action : StateM Workspace α} {next : α → StateM Workspace β} :
    (action >>= next).run w = (b, w') ↔
      ∃ a between, action.run w = (a, between) ∧ (next a).run between = (b, w') := by
  rw [StateT.run_bind]
  constructor
  · exact fun run => ⟨_, _, rfl, run⟩
  · rintro ⟨a, between, first, second⟩
    rw [first]
    exact second

theorem yields_bind_iff :
    Yields (step >>= rest) w b w' ↔ ∃ a between, Yields step w a between ∧
      Yields (rest a) between b w' := by
  unfold Yields
  rw [ExceptT.run_bind, run_bind_iff]
  constructor
  · rintro ⟨result, between, first, second⟩
    cases result with
    | error stop => cases second
    | ok a => exact ⟨a, between, first, second⟩
  · rintro ⟨a, between, first, second⟩
    exact ⟨.ok a, between, first, second⟩

theorem run_of_yields_orFail {result : StateM Workspace (Except ε α)} {fail : ε → CommandError}
    (yields : Yields (orFail fail result) w a w') : result.run w = (.ok a, w') := by
  obtain ⟨given, between, lifted, run⟩ := yields_bind_iff.mp yields
  have given_eq : result.run w = (given, between) := by
    cases lifted
    rfl
  cases given with
  | error error => cases run
  | ok given =>
    cases run
    exact given_eq

theorem openFile_of_yields {path : Path} {source : Source} {fail : OsError → CommandError}
    (calm : Calm files d w) (member : path ∈ files)
    (yields : Yields (orFail fail (Files.openFile path)) w source w') :
    d.openFile path = .ok source ∧ w' = w := by
  have run : (w.directory.openFile path, w) = (.ok source, w') := run_of_yields_orFail yields
  obtain ⟨opened, rfl⟩ := Prod.mk.inj run
  refine ⟨Directory.openFile_congr calm.same.tree.symm (fun way leads => ?_) opened, rfl⟩
  exact (calm.same.contents path member way (calm.same.tree ▸ leads)).symm

theorem of_yields_pure {result : Except ε α} {fail : ε → CommandError}
    (yields : Yields (orFail fail (pure result)) w a w') : result = .ok a ∧ w' = w := by
  have run : (result, w) = (.ok a, w') := run_of_yields_orFail yields
  obtain ⟨known, rfl⟩ := Prod.mk.inj run
  exact ⟨known, rfl⟩

theorem Does.of_yields {text : String} {result : Except Stop α}
    (does : Does files d step result text) (calm : Calm files d w) (yields : Yields step w a w') :
    result = .ok a ∧ w'.output = w.output ++ text ∧ Calm files d w' := by
  obtain ⟨given, printed, calm⟩ := does w calm
  rw [yields] at given printed calm
  exact ⟨given.symm, printed, calm⟩

end Success

end Command

end AccessTrace
