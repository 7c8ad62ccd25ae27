import AccessTrace.Config.Basic
import AccessTrace.Histogram
import AccessTrace.Ingest.Growing
import AccessTrace.Store.Statistics

/-!
A session: the accesses of one trace and the configuration under which they are looked at. A trace
may be ingested in parts; each part continues at the latest cycle of those before it.
-/

namespace AccessTrace

structure Session where
  store : Store
  config : Config
  period : Period
  valid : config.validate = .ok period

structure SessionError where
  reason : ConfigError

def SessionError.chain (error : SessionError) : List Link :=
  .text "Invalid config" :: error.reason.chain

structure IngestError where
  reason : ReadError
  deriving DecidableEq, Repr

def IngestError.readChain (error : ReadError) : List Link :=
  .text "Unable to read trace" :: error.chain

def IngestError.chain (error : IngestError) : List Link :=
  .text "Unable to ingest trace" :: readChain error.reason

namespace Session

def ofStore (store : Store) (config : Config) : Except SessionError Session :=
  match h : config.validate with
  | .error reason => .error ⟨reason⟩
  | .ok period => .ok { store, config, period, valid := h }

def new (config : Config) : Except SessionError Session :=
  ofStore .empty config

/-- An ingestion that continues at the latest cycle of the store. -/
def ingestion (session : Session) : Ingestion :=
  { clock := session.store.horizon.getD 0, maxLines := session.config.maxLines }

def ingest (session : Session) (lines : List String) : Summary × Session :=
  let (ingestion, store) := session.ingestion.feedAll session.store lines
  (ingestion.summary, { session with store })

def ingestSource (session : Session) (source : Source) :
    Except IngestError Summary × Session :=
  let (error, ingestion, store) := session.ingestion.feedReader session.store { source }
  (match error with
    | some reason => .error ⟨reason⟩
    | none => .ok ingestion.summary, { session with store })

def bounds (session : Session) : Option Bounds := session.store.bounds

def window? (session : Session) (upper : Cycle) (filter : KindFilter) : Option Window :=
  session.store.window? upper session.config.windowSize filter

def histogram (session : Session) (upper : Cycle) (filter : KindFilter) :
    Except Trap (Option (Window × Option Histogram)) :=
  match session.window? upper filter with
  | none => .ok none
  | some window =>
    match Histogram.ofAddresses window.addresses session.config.histogramBins with
    | .ok histogram => .ok (some (window, histogram))
    | .error trap => .error trap

/-- The end of the window after the one that ends at a cycle, which is not past the last cycle that
there can be. -/
def step (session : Session) (upper : Cycle) : Cycle :=
  if UInt64.size ≤ upper.toNat + session.config.stepCycles.toNat then 0xFFFFFFFFFFFFFFFF
  else upper + session.config.stepCycles

def ingestedEvents (summary : Summary) (store : Store) : List Event :=
  [{ level := .info, component := .session, message := s!"Ingested trace: {summary.describe}" },
    { level := .info, component := .session, message := s!"Accesses: {store.describe}" }]

def ingestGrowing (session : Session) (echo : List Event → List UInt8) (source : Source) :
    Except IngestError Summary × List Event × Session :=
  let (error, events, ingestion, store) :=
    session.ingestion.feedGrowing echo session.period session.store { source }
  let session := { session with store }
  match error with
  | some reason => (.error ⟨reason⟩, events, session)
  | none =>
    (.ok ingestion.summary, events ++ ingestedEvents ingestion.summary store, session)

def ingestEvents (session : Session) (lines : List String) : List Event :=
  let (summary, after) := session.ingest lines
  session.ingestion.events session.period session.store lines ++
    ingestedEvents summary after.store

def ingestSourceEvents (session : Session) (source : Source) : List Event :=
  let (result, after) := session.ingestSource source
  let lines := (LineReader.readAll { source }).1
  session.ingestion.events session.period session.store lines ++
    match result with
    | .ok summary => ingestedEvents summary after.store
    | .error _ => []

end Session

end AccessTrace
