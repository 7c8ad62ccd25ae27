import AccessTrace.Command.Run

namespace AccessTrace.Command

structure Outcome where
  code : Nat
  report : String
  deriving DecidableEq, Repr

def usage : String :=
  "Usage: memvis [OPTIONS] <COMMAND>\n\n" ++
  "Commands:\n" ++
  "  parse   Parses a trace and saves it as a database\n" ++
  "  hist    Shows histograms of the addresses accessed within a window of cycles\n" ++
  "  bounds  Shows the address and cycle bounds of all accesses\n" ++
  "  help    Shows this text\n\n" ++
  "Options:\n" ++
  "      --log-file <LOG_FILE>   Log file\n" ++
  "      --log-file-append       Whether to append to the log file\n" ++
  "      --config <CONFIG_FILE>  Config file\n" ++
  "  -h, --help                  Shows this text\n"

def UsageError.message : UsageError → String
  | .help | .helpForNothing => usage
  | .missingSubcommand => "error: a subcommand is missing\n"
  | .invalidSubcommand => "error: there is no such subcommand\n"
  | .unknownArgument => "error: unexpected argument\n"
  | .invalidValue => "error: missing or invalid value\n"
  | .valueValidation => "error: a value is not a number\n"
  | .tooManyValues => "error: a flag takes no value\n"
  | .argumentConflict => "error: an argument cannot be used twice or with another one\n"
  | .missingRequiredArgument => "error: a required argument is missing\n"

def Stop.outcome : Stop → Outcome
  | .failed error => ⟨1, Command.report error.chain⟩
  | .crashed trap => ⟨101, trap.message ++ "\n"⟩
  | .exhausted => ⟨134, "memory allocation failed\n"⟩

def outcomeOf : Except Stop Unit → Outcome
  | .ok () => ⟨0, ""⟩
  | .error stop => stop.outcome

variable {m : Type → Type} [Monad m] [Files m] [Console m]

def runWords (words : List String) : m Outcome := do
  match Arguments.ofWords words with
  | .error .help =>
    Console.print usage
    return ⟨0, ""⟩
  | .error error => return ⟨2, error.message⟩
  | .ok arguments =>
    return outcomeOf (← (run (m := m) arguments).run)

end AccessTrace.Command
