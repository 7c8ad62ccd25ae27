import AccessTrace.Ingest.Summary
import AccessTrace.Trace.Reader

/-!
Applying a trace to a recorder of accesses, line by line. The clock of the trace only moves forward.
A limit on the number of lines stops the ingestion when there is a line beyond it; what the lines
before it did stays.
-/

namespace AccessTrace

structure Ingestion where
  clock : Cycle := 0
  maxLines : Option Nat := none
  summary : Summary := {}
  deriving DecidableEq, Repr, Inhabited

namespace Ingestion

variable {σ : Type} [Recorder σ]

/-- What a line that could be read does, the clock after it, and the recorder after it. A clock
line that would set the clock back does nothing, so no access ends before it starts. -/
def apply (clock : Cycle) (recorder : σ) : TraceLine → LineEffect × Cycle × σ
  | .clock cycle =>
    if cycle < clock then (.clockIgnored cycle, clock, recorder)
    else (.clockAdvanced cycle, cycle, Recorder.observe recorder cycle)
  | .newAccess id kind address =>
    let access : Access := { id, kind, address, start := clock }
    match Recorder.insertIfNew recorder access with
    | (true, recorder) => (.added id, clock, recorder)
    | (false, recorder) => (.duplicate id, clock, recorder)
  | .endAccess id =>
    let (outcome, recorder) := Recorder.close recorder id clock
    (.ended id outcome, clock, recorder)
  | .other => (.nothing, clock, recorder)

def effect (clock : Cycle) (recorder : σ) (line : String) : LineEffect × Cycle × σ :=
  match TraceLine.parse line with
  | .ok line => apply clock recorder line
  | .error error => (.malformed error, clock, recorder)

def count (ingestion : Ingestion) (effect : LineEffect) (clock : Cycle) : Ingestion :=
  { ingestion with clock, summary := ingestion.summary.countLine effect }

def feed (ingestion : Ingestion) (recorder : σ) (line : String) : Ingestion × σ :=
  let (effect, clock, recorder) := effect ingestion.clock recorder line
  (ingestion.count effect clock, recorder)

def isFull (ingestion : Ingestion) : Bool :=
  match ingestion.maxLines with
  | some most => most ≤ ingestion.summary.lines
  | none => false

def stop (ingestion : Ingestion) : Ingestion :=
  { ingestion with summary := { ingestion.summary with stoppedEarly := true } }

def feedAll (ingestion : Ingestion) (recorder : σ) : List String → Ingestion × σ
  | [] => (ingestion, recorder)
  | line :: rest =>
    if ingestion.isFull then (ingestion.stop, recorder)
    else
      let (ingestion, recorder) := ingestion.feed recorder line
      ingestion.feedAll recorder rest

/-- Takes lines from a reader until they end or the limit is reached. If reading fails, what was
read before stays. -/
def feedReader (ingestion : Ingestion) (recorder : σ) (reader : LineReader) :
    Option ReadError × Ingestion × σ :=
  match _next : reader.next? with
  | .error error => (some error, ingestion, recorder)
  | .ok none => (none, ingestion, recorder)
  | .ok (some (line, reader)) =>
    if ingestion.isFull then (none, ingestion.stop, recorder)
    else
      let (ingestion, recorder) := ingestion.feed recorder line
      ingestion.feedReader recorder reader
termination_by reader.source.octets.length
decreasing_by exact LineReader.length_next _next

end Ingestion

end AccessTrace
