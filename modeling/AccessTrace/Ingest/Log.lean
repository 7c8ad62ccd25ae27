import AccessTrace.Event
import AccessTrace.Ingest.Ingestion
import AccessTrace.Period

/-!
What an ingestion logs: lines that are left out, clocks that go back, accesses that start or end
twice, and from time to time its progress. Little time passes between two lines, so progress is
told after the first line only, or after every line if the period is no longer than that.
-/

namespace AccessTrace.Ingestion

open AccessTrace.Text

variable {σ : Type} [Recorder σ]

def effectEvents (lineNumber : Nat) (clock : Cycle) (line : String) : LineEffect → List Event
  | .malformed error =>
    [{ level := .warn, component := .ingest
       message := s!"Skipping malformed line: {error.message}"
       fields := [("line_idx", toString lineNumber), ("line", quoted line)] }]
  | .clockIgnored cycle =>
    [{ level := .warn, component := .ingest, message := "Ignoring backwards clock"
       fields := [("line_idx", toString lineNumber), ("cycle", toString cycle),
         ("current_cycle", toString clock)] }]
  | .duplicate id =>
    [{ level := .debug, component := .ingest, message := "Ignoring duplicate access"
       fields := [("line_idx", toString lineNumber), ("id", id.name)] }]
  | .ended id .alreadyClosed =>
    [{ level := .debug, component := .ingest
       message := "Ignoring end of already ended access"
       fields := [("line_idx", toString lineNumber), ("id", id.name)] }]
  | .ended id .unknown =>
    [{ level := .debug, component := .ingest, message := "Ignoring end of unknown access"
       fields := [("line_idx", toString lineNumber), ("id", id.name)] }]
  | .clockAdvanced _ | .added _ | .ended _ .closed | .nothing => []

def parsedEvents (lineNumber : Nat) (clock : Cycle) (line : String) : List Event :=
  match TraceLine.parse line with
  | .ok traceLine =>
    [{ level := .trace, component := .ingest, message := "Parsed line"
       fields := [("line_idx", toString lineNumber), ("cycle", toString clock),
         ("trace_line", traceLine.label)] }]
  | .error _ => []

def lineEvents (ingestion : Ingestion) (line : String) (effect : LineEffect) : List Event :=
  let lineNumber := ingestion.summary.lines + 1
  parsedEvents lineNumber ingestion.clock line ++
    effectEvents lineNumber ingestion.clock line effect

def feedLogged (ingestion : Ingestion) (recorder : σ) (line : String) :
    List Event × Ingestion × σ :=
  let (effect, clock, recorder) := effect ingestion.clock recorder line
  (ingestion.lineEvents line effect, ingestion.count effect clock, recorder)

def progressEvents (ingestion : Ingestion) (due : Bool) : List Event :=
  if due then
    [{ level := .info, component := .ingest
       message := s!"Progress: {ingestion.summary.describe}" }]
  else []

def fullEvent (ingestion : Ingestion) : Event :=
  { level := .info, component := .ingest, message := "Reached max lines, stopping"
    fields := [("lines_read", toString ingestion.summary.lines)] }

/-- What `feedAll` logs of lines, given whether progress is due after the next one. -/
def feedEvents (period : Period) (due : Bool) (ingestion : Ingestion) (recorder : σ) :
    List String → List Event
  | [] => []
  | line :: rest =>
    if ingestion.isFull then [ingestion.fullEvent]
    else
      let (lineEvents, ingestion, recorder) := ingestion.feedLogged recorder line
      lineEvents ++ ingestion.progressEvents due ++
        feedEvents period period.isOverByNextLine ingestion recorder rest

def events (ingestion : Ingestion) (period : Period) (recorder : σ) (lines : List String) :
    List Event :=
  feedEvents period period.isDueAtStart ingestion recorder lines

end AccessTrace.Ingestion
