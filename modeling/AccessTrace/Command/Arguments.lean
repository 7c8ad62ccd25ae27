import AccessTrace.Command.Words
import AccessTrace.Text.Label

namespace AccessTrace.Command

open Text

inductive Input where
  | trace (path : Path)
  | database (path : Path)
  deriving DecidableEq, Repr

structure ParseArguments where
  traceFile : Path
  outputFile : Option Path := none
  format : Option Format := none
  maxLines : Option Nat := none
  deriving DecidableEq, Repr

structure HistArguments where
  input : Input
  cycle : Cycle
  kind : KindFilter := .all
  windowSize : Option Cycle := none
  bins : Option Nat := none
  steps : Nat := 0
  stepCycles : Option Cycle := none
  barWidth : Nat := 50
  deriving DecidableEq, Repr

inductive Subcommand where
  | parse (arguments : ParseArguments)
  | hist (arguments : HistArguments)
  | bounds (input : Input)
  deriving DecidableEq, Repr

structure Arguments where
  logFile : Option Path := none
  logFileAppend : Bool := false
  configFile : Option Path := none
  command : Subcommand
  deriving DecidableEq, Repr

/-! ### The command line as messages show it -/

def Input.label : Input → String
  | .trace path => fields "Input"
    [("trace_file", optional Path.label (some path)), ("database_file", "None")]
  | .database path => fields "Input"
    [("trace_file", "None"), ("database_file", optional Path.label (some path))]

def Subcommand.label : Subcommand → String
  | .parse a => carrying "Parse" <| fields "Parse"
    [("trace_file", a.traceFile.label), ("output_file", optional Path.label a.outputFile),
      ("format", optional Format.label a.format), ("max_lines", optional toString a.maxLines)]
  | .hist a => carrying "Hist" <| fields "Hist"
    [("input", a.input.label), ("cycle", toString a.cycle), ("kind", a.kind.label),
      ("window_size", optional toString a.windowSize), ("bins", optional toString a.bins),
      ("steps", toString a.steps), ("step_cycles", optional toString a.stepCycles),
      ("bar_width", toString a.barWidth)]
  | .bounds input => carrying "Bounds" <| fields "Bounds" [("input", input.label)]

def Arguments.label (a : Arguments) : String :=
  fields "Args"
    [("log_file", optional Path.label a.logFile), ("log_file_append", toString a.logFileAppend),
      ("config_file", optional Path.label a.configFile), ("sub_cmd", a.command.label)]

/-! ### What each command understands -/

def mainGrammar : Grammar where
  options :=
    [{ name := "log-file", type := some .path }, { name := "log-file-append" },
      { name := "config", type := some .path }]
  subcommands := ["parse", "hist", "bounds", "help"]

def parseGrammar : Grammar where
  options :=
    [{ name := "output", letter := some 'o', type := some .path },
      { name := "format", type := some .format }, { name := "max-lines", type := some .number }]
  argument := some { name := "trace_file", type := some .path }

def inputOptions : List Parameter :=
  [{ name := "trace", type := some .path }, { name := "database", type := some .path }]

def histGrammar : Grammar where
  options := inputOptions ++
    [{ name := "cycle", type := some .number }, { name := "kind", type := some .filter },
      { name := "window", type := some .number }, { name := "bins", type := some .number },
      { name := "steps", type := some .number }, { name := "step-cycles", type := some .number },
      { name := "bar-width", type := some .number }]

def boundsGrammar : Grammar where
  options := inputOptions

/-! ### From values to arguments -/

namespace Reading

def path? (r : Reading) (name : String) : Option Path :=
  match r.value? name with
  | some (.path path) => some path
  | _ => none

def number? (r : Reading) (name : String) : Option UInt64 :=
  match r.value? name with
  | some (.number n) => some n
  | _ => none

def format? (r : Reading) (name : String) : Option Format :=
  match r.value? name with
  | some (.format format) => some format
  | _ => none

def filter? (r : Reading) (name : String) : Option KindFilter :=
  match r.value? name with
  | some (.filter filter) => some filter
  | _ => none

def complete (g : Grammar) (words : List String) : Except UsageError Reading := do
  let (r, _) ← Reading.words g {} words
  r.settle

def input? (r : Reading) : Except UsageError (Option Input) :=
  match r.path? "trace", r.path? "database" with
  | some _, some _ => .error .argumentConflict
  | some path, none => .ok (some (.trace path))
  | none, some path => .ok (some (.database path))
  | none, none => .ok none

end Reading

def ParseArguments.ofReading (r : Reading) : Except UsageError ParseArguments :=
  match r.path? "trace_file" with
  | none => .error .missingRequiredArgument
  | some traceFile => .ok
    { traceFile
      outputFile := r.path? "output"
      format := r.format? "format"
      maxLines := (r.number? "max-lines").map UInt64.toNat }

def HistArguments.ofReading (r : Reading) : Except UsageError HistArguments := do
  match ← r.input?, r.number? "cycle" with
  | some input, some cycle => return {
      input
      cycle
      kind := (r.filter? "kind").getD .all
      windowSize := r.number? "window"
      bins := (r.number? "bins").map UInt64.toNat
      steps := ((r.number? "steps").getD 0).toNat
      stepCycles := r.number? "step-cycles"
      barWidth := ((r.number? "bar-width").getD 50).toNat }
  | _, _ => throw .missingRequiredArgument

def Subcommand.ofWords (name : String) (words : List String) : Except UsageError Subcommand := do
  if name = "parse" then
    return .parse (← ParseArguments.ofReading (← Reading.complete parseGrammar words))
  else if name = "hist" then
    return .hist (← HistArguments.ofReading (← Reading.complete histGrammar words))
  else if name = "bounds" then
    match ← (← Reading.complete boundsGrammar words).input? with
    | some input => return .bounds input
    | none => throw .missingRequiredArgument
  else
    match words with
    | [] => throw .help
    | [about] => if about ∈ mainGrammar.subcommands then throw .help else throw .invalidSubcommand
    | _ => throw .invalidSubcommand

def Arguments.ofWords (words : List String) : Except UsageError Arguments := do
  match ← Reading.words mainGrammar {} words with
  | (r, some (name, rest)) =>
    let command ← Subcommand.ofWords name rest
    let r ← r.settle
    return {
      logFile := r.path? "log-file"
      logFileAppend := (r.value? "log-file-append").isSome
      configFile := r.path? "config"
      command }
  | (r, none) =>
    let r ← r.settle
    if r.values.isEmpty then throw .helpForNothing else throw .missingSubcommand

end AccessTrace.Command
