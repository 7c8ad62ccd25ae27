import AccessTrace.Ingest.Log

/-!
Ingesting a trace that grows while it is read, because what is logged of its lines is written to
its end. Every line may add lines, so the ingestion may go on for as long as lines can be counted.
A trace that does not grow is ingested to its end.
-/

namespace AccessTrace

def LineReader.extend (reader : LineReader) (octets : List UInt8) : LineReader :=
  if octets.isEmpty then reader
  else { reader with source.octets := reader.source.octets ++ octets }

namespace Ingestion

variable {σ : Type} [Recorder σ]

/-- Takes lines from a reader whose trace grows by the echo of what is logged. `due` tells whether
progress is told after the next line, and `steps` bounds the lines. -/
def growFor (echo : List Event → List UInt8) (period : Period) (due : Bool) (ingestion : Ingestion)
    (recorder : σ) (reader : LineReader) :
    Nat → Option ReadError × List Event × Ingestion × σ
  | 0 => (none, [], ingestion, recorder)
  | steps + 1 =>
    match reader.next? with
    | .error error => (some error, [], ingestion, recorder)
    | .ok none => (none, [], ingestion, recorder)
    | .ok (some (line, reader)) =>
      if ingestion.isFull then (none, [ingestion.fullEvent], ingestion.stop, recorder)
      else
        let (lineEvents, ingestion, recorder) := ingestion.feedLogged recorder line
        let events := lineEvents ++ ingestion.progressEvents due
        let (error, laterEvents, ingestion, recorder) :=
          growFor echo period period.isOverByNextLine ingestion recorder
            (reader.extend (echo events)) steps
        (error, events ++ laterEvents, ingestion, recorder)

/-- Takes lines from a reader whose trace grows by the echo of what is logged. Gives what is
logged, too. Beyond the lines that are there it takes as many as can be counted in a word. -/
def feedGrowing (ingestion : Ingestion) (echo : List Event → List UInt8) (period : Period)
    (recorder : σ) (reader : LineReader) : Option ReadError × List Event × Ingestion × σ :=
  growFor echo period period.isDueAtStart ingestion recorder reader
    (UInt64.size + reader.source.octets.length)

end Ingestion

end AccessTrace
