import AccessTrace.Proofs.Command.Effects
import AccessTrace.Proofs.Ingest.Growing
import AccessTrace.Proofs.Session.Horizon

namespace AccessTrace

theorem Config.validate_eq_ok_iff {config : Config} {period : Period} :
    config.validate = .ok period ↔ config.histogramBins ≠ 0 ∧ config.period = .ok period := by
  unfold validate
  split
  · next none => simp [none]
  · next some => simp [some]

namespace Session

variable {store : Store} {config : Config} {session : Session}

theorem ofStore_eq_ok_iff :
    ofStore store config = .ok session ↔ session.store = store ∧ session.config = config := by
  refine ⟨ofStore_eq_ok, ?_⟩
  rintro ⟨rfl, rfl⟩
  obtain ⟨store, config, period, valid⟩ := session
  unfold ofStore
  split
  · next reason invalid => cases invalid.symm.trans valid
  · next period' valid' => cases Except.ok.inj (valid'.symm.trans valid); rfl

theorem eq_of_store_config {other : Session} (store : session.store = other.store)
    (config : session.config = other.config) : session = other := by
  have begun := ofStore_eq_ok_iff.mpr ⟨store, config⟩
  exact Except.ok.inj (begun.symm.trans (ofStore_eq_ok_iff.mpr ⟨rfl, rfl⟩))

theorem ofStore_eq_error {reason : SessionError} (refused : ofStore store config = .error reason)
    (other : Store) : ofStore other config = .error reason := by
  unfold ofStore at refused ⊢
  split at refused
  · cases refused
    rfl
  · cases refused

end Session

namespace Command

variable {files : List Path} {d : Directory} {w w' : Workspace} {config : Config}
  {session : Session} {file : Option Path} {trace : Path} {summary : Summary}

/-- A file, or none, holds the configuration. -/
inductive ConfigIn (d : Directory) : Option Path → Config → Prop where
  | default : ConfigIn d none {}
  | file {path : Path} {source : Source} {config : Config} (opened : d.openFile path = .ok source)
      (found : Config.read source = .ok config) : ConfigIn d (some path) config

/-- A trace can be opened and read to its end, and this is what comes of it. -/
def Ingests (d : Directory) (trace : Path) (config : Config) (summary : Summary)
    (session : Session) : Prop :=
  ∃ source start, d.openFile trace = .ok source ∧ d.isEndless trace = false ∧
    Session.new config = .ok start ∧ start.ingestSource source = (.ok summary, session)

theorem does_loadConfig (known : ConfigIn d file config)
    (members : ∀ path, file = some path → path ∈ files) :
    Does files d (loadConfig file) (.ok config) "" := by
  cases known with
  | default => exact does_pure _
  | file opened found =>
    apply (does_orFail (acts_openFile (members _ rfl) opened)).andThen
    exact does_orFail (acts_pure found)

theorem configIn_of_yields (calm : Calm files d w)
    (members : ∀ path, file = some path → path ∈ files)
    (yields : Yields (loadConfig file) w config w') : ConfigIn d file config := by
  cases file with
  | none =>
    cases yields
    exact .default
  | some path =>
    obtain ⟨source, between, opening, reading⟩ := yields_bind_iff.mp yields
    obtain ⟨opened, rfl⟩ := openFile_of_yields calm (members path rfl) opening
    exact .file opened (of_yields_pure reading).1

theorem does_ingestTrace (ingests : Ingests d trace config summary session)
    (member : trace ∈ files) :
    Does files d (ingestTrace trace config) (.ok session) (summary.describe ++ "\n") := by
  obtain ⟨source, start, opened, ends, begun, ingested⟩ := ingests
  apply (does_orFail (acts_openFile member opened)).andThen
  apply (does_orFail (acts_pure begun)).andThen
  have allowed : Does files d (refuseEndless trace) _ "" := does_refuseEndless trace
  rw [ends] at allowed
  apply allowed.andThen
  apply (does_lift (acts_logEcho member)).andThen
  simp only [Session.ingestGrowing_silent, ingested]
  apply (does_logAll _).andThen
  apply (does_orFail (acts_pure rfl)).andThen
  exact (does_printLine summary.describe).thenSilent (does_pure session)

theorem ConfigIn.of_agreesOn {d' : Directory} (known : ConfigIn d file config)
    (same : d.AgreesOn file.toList d') : ConfigIn d' file config := by
  cases known with
  | default => exact .default
  | file opened found =>
    have contents := same.contents _ (List.mem_singleton_self _)
    exact .file (Directory.openFile_congr same.tree contents opened) found

theorem Ingests.of_agreesOn {d' : Directory} (ingests : Ingests d trace config summary session)
    (same : d.AgreesOn [trace] d') : Ingests d' trace config summary session := by
  obtain ⟨source, start, opened, ends, ingested⟩ := ingests
  have contents := same.contents trace (List.mem_singleton_self _)
  exact ⟨source, start, Directory.openFile_congr same.tree contents opened,
    (Directory.isEndless_congr same.tree).trans ends, ingested⟩

theorem ended_of_yields {result : Except IngestError Summary} {events : List Event}
    {after : Session}
    (yields : Yields (do
      logAll events
      let summary ← orFail (.parseTrace trace) (pure result)
      printLine summary.describe
      return after) w session w') : ∃ summary, result = .ok summary ∧ after = session := by
  obtain ⟨_, _, -, rest⟩ := yields_bind_iff.mp yields
  obtain ⟨summary, _, ended, printing⟩ := yields_bind_iff.mp rest
  obtain ⟨_, _, -, done⟩ := yields_bind_iff.mp printing
  have same : (Except.ok after : Except Stop Session) = .ok session := (Prod.mk.inj done).1
  exact ⟨summary, (of_yields_pure ended).1, Except.ok.inj same⟩

theorem ends_of_yields {path : Path} (calm : Calm files d w)
    (yields : Yields (refuseEndless path) w () w') :
    d.isEndless path = false ∧ Calm files d w' := by
  obtain ⟨allowed, -, calm⟩ := (does_refuseEndless path).of_yields calm yields
  cases endless : d.isEndless path with
  | true => simp [endless] at allowed
  | false => exact ⟨rfl, calm⟩

theorem ingests_of_yields (calm : Calm files d w) (member : trace ∈ files)
    (yields : Yields (ingestTrace trace config) w session w') :
    ∃ summary, Ingests d trace config summary session := by
  obtain ⟨source, _, opening, rest⟩ := yields_bind_iff.mp yields
  obtain ⟨start, _, beginning, rest⟩ := yields_bind_iff.mp rest
  obtain ⟨_, _, asking, rest⟩ := yields_bind_iff.mp rest
  obtain ⟨echo, _, echoing, rest⟩ := yields_bind_iff.mp rest
  obtain ⟨opened, rfl⟩ := openFile_of_yields calm member opening
  obtain ⟨begun, rfl⟩ := of_yields_pure beginning
  obtain ⟨ends, calm⟩ := ends_of_yields calm asking
  obtain ⟨silent, -, -⟩ := (does_lift (acts_logEcho member)).of_yields calm echoing
  obtain rfl : (fun _ => []) = echo := Except.ok.inj silent
  rw [Session.ingestGrowing_silent] at rest
  obtain ⟨summary, told, rfl⟩ := ended_of_yields rest
  exact ⟨summary, source, start, opened, ends, begun, Prod.ext told rfl⟩

theorem Ingests.settled (ingests : Ingests d trace config summary session) : session.Settled := by
  obtain ⟨source, start, -, -, begun, ingested⟩ := ingests
  have settled := (Session.Reachable.new begun).settled.take (.source source)
  rwa [Session.take, ingested] at settled

theorem Ingests.config_eq (ingests : Ingests d trace config summary session) :
    session.config = config := by
  obtain ⟨source, start, -, -, begun, ingested⟩ := ingests
  have same := start.config_take (.source source)
  rwa [Session.take, ingested, (Session.ofStore_eq_ok_iff.mp begun).2] at same

/-- What comes of a trace is what an empty session that takes as many lines makes of it. -/
theorem Ingests.ingestSource_eq (ingests : Ingests d trace config summary session)
    {source : Source} (opened : d.openFile trace = .ok source) {start : Session}
    (empty : start.store = .empty) (maxLines : start.config.maxLines = config.maxLines) :
    start.ingestSource source = (.ok summary, { start with store := session.store }) := by
  obtain ⟨source', first, opened', -, begun, ingested⟩ := ingests
  obtain rfl : source = source' := Except.ok.inj (opened.symm.trans opened')
  obtain ⟨empty', rfl⟩ := Session.ofStore_eq_ok_iff.mp begun
  obtain ⟨told, store⟩ := Session.ingestSource_congr (empty.trans empty'.symm) maxLines source
  rw [ingested] at told store
  refine Prod.ext told ?_
  exact Session.eq_of_store_config store (start.config_take (.source source))

theorem Ingests.reconfigure (ingests : Ingests d trace config summary session) {after : Session}
    (same : after.store = session.store) (maxLines : after.config.maxLines = config.maxLines) :
    Ingests d trace after.config summary after := by
  obtain ⟨source, _, opened, ends, -⟩ := id ingests
  obtain ⟨start, empty, config⟩ : ∃ start : Session, start.store = .empty ∧
      start.config = after.config := ⟨{ after with store := .empty }, rfl, rfl⟩
  have begun : Session.new after.config = .ok start :=
    Session.ofStore_eq_ok_iff.mpr ⟨empty, config⟩
  have last : { start with store := session.store } = after :=
    Session.eq_of_store_config same.symm config
  refine ⟨source, start, opened, ends, begun, ?_⟩
  rw [ingests.ingestSource_eq opened empty (config ▸ maxLines), last]

theorem does_ingestTrace_refused {source : Source} {error : SessionError} (member : trace ∈ files)
    (opened : d.openFile trace = .ok source) (refused : Session.new config = .error error) :
    Does files d (ingestTrace trace config) (.error (.failed (.session error))) "" := by
  apply (does_orFail (acts_openFile member opened)).andThen
  exact (does_orFail_error (acts_pure refused)).stopped

section Loading

variable {path : Path} {source : Source} {store : Store}

theorem acts_load (member : path ∈ files) (opened : d.openFile path = .ok source)
    (format : Format) :
    Acts files d (Store.load path format) (· = Store.ofSource path format source) "" := by
  apply (acts_openFile member opened).andThen
  rintro _ rfl
  exact acts_pure rfl

theorem does_openDatabase (member : path ∈ files) (opened : d.openFile path = .ok source)
    (loaded : Store.ofSource path (.ofPath path) source = .ok store)
    {result : Except SessionError Session} (begun : Session.ofStore store config = result) :
    Does files d (openSession (.database path) config)
      (result.mapError fun error => .failed (.session error)) "" := by
  have acts := acts_load member opened (.ofPath path)
  rw [loaded] at acts
  apply (does_orFail acts).andThen
  apply (does_logAll _).andThen
  cases result with
  | ok session => exact does_orFail (acts_pure begun)
  | error error => exact does_orFail_error (acts_pure begun)

theorem does_openDatabase_unreadable {error : LoadError} (member : path ∈ files)
    (opened : d.openFile path = .ok source)
    (refused : Store.ofSource path (.ofPath path) source = .error error) :
    Does files d (openSession (.database path) config) (.error (.failed (.load error))) "" := by
  have acts := acts_load member opened (.ofPath path)
  rw [refused] at acts
  exact (does_orFail_error acts).stopped

end Loading

end Command

end AccessTrace
