import AccessTrace.Text.Utf8

namespace AccessTrace

inductive Level where
  | error
  | warn
  | info
  | debug
  | trace
  deriving DecidableEq, Repr

def Level.rank : Level → Nat
  | .error => 0
  | .warn => 1
  | .info => 2
  | .debug => 3
  | .trace => 4

def Level.name : Level → String
  | .error => "ERROR"
  | .warn => "WARN"
  | .info => "INFO"
  | .debug => "DEBUG"
  | .trace => "TRACE"

inductive Component where
  | arguments
  | program
  | ingest
  | session
  | store
  deriving DecidableEq, Repr

def Component.target : Component → String
  | .arguments => "memvis_util::logger::pre_init"
  | .program => "memvis"
  | .ingest => "memvis::ingest"
  | .session => "memvis::session"
  | .store => "memvis::store"

structure Event where
  level : Level
  component : Component
  message : String
  fields : List (String × String) := []
  deriving DecidableEq, Repr

def Event.passes (threshold : Level) (event : Event) : Bool :=
  event.level.rank ≤ threshold.rank

def Event.line (event : Event) : String :=
  let level := "".pushn ' ' (5 - event.level.name.length) ++ event.level.name
  let fields := event.fields.map fun field => s!" {field.1}={field.2}"
  s!"{level} {event.component.target}: {event.message}" ++ String.join fields

/-- The octets of the lines that a log file gains by events, each with the time before it. A log
file keeps events up to the debug level. -/
def Event.entries (time : String) (events : List Event) : List UInt8 :=
  (events.filter fun event => event.passes .debug).flatMap fun event =>
    Text.utf8 s!"{time} {event.line}\n"

end AccessTrace
