import AccessTrace.Proofs.Ingest.Counts
import AccessTrace.Proofs.Ingest.Lines
import AccessTrace.Proofs.Session.Chunks
import AccessTrace.Proofs.Text.Blank

namespace AccessTrace

open Text LineReader

theorem TraceLine.parse_congr {line other : String} (same : words line.toList = words other.toList) :
    parse line = parse other := by
  rw [parse, parse, same]

theorem parse_lineText (line : String) :
    TraceLine.parse (lineText (utf8 line)) = TraceLine.parse line := by
  refine TraceLine.parse_congr ?_
  rw [lineText_utf8]
  split
  · next last =>
    obtain ⟨front, whole⟩ := List.getLast?_eq_some_iff.mp last
    rw [whole, List.dropLast_concat, words_concat (by decide)]
  · rfl

def feedOctets (lines : List String) : List UInt8 :=
  lines.flatMap fun line => utf8 line ++ [lineFeed]

theorem linePieces_feedOctets {lines : List String}
    (unbroken : ∀ line ∈ lines, '\n' ∉ line.toList) :
    linePieces (feedOctets lines) = lines.map utf8 := by
  induction lines with
  | nil => rfl
  | cons line rest ih =>
    obtain ⟨first, later⟩ := List.forall_mem_cons.mp unbroken
    rw [feedOctets, List.flatMap_cons, List.append_assoc, List.singleton_append,
      linePieces_line (lineFeed_not_mem first), List.map_cons, ← ih later]
    rfl

/-- The part gives these lines, either as they are or in octets. -/
inductive Chunk.Holds : Chunk → List String → Prop where
  | lines (all : List String) : Holds (.lines all) all
  | octets {all : List String} (unbroken : ∀ line ∈ all, '\n' ∉ line.toList) :
      Holds (.source { octets := feedOctets all }) all

namespace Session

variable {session : Session}

def told (session : Session) : Chunk → Except IngestError Summary
  | .lines lines => .ok (session.ingest lines).1
  | .source source => (session.ingestSource source).1

def toldAll (session : Session) : List Chunk → List (Except IngestError Summary)
  | [] => []
  | chunk :: rest => session.told chunk :: (session.take chunk).toldAll rest

theorem ingestSource_of_unlimited (unlimited : session.config.maxLines = none) (source : Source) :
    session.ingestSource source =
      (match (LineReader.readAll { source }).2 with
        | some reason => .error ⟨reason⟩
        | none => .ok (session.ingest (LineReader.readAll { source }).1).1,
        (session.ingest (LineReader.readAll { source }).1).2) := by
  have fed : session.ingestion.feedReader session.store { source } =
      ((LineReader.readAll { source }).2,
        session.ingestion.feedAll session.store (LineReader.readAll { source }).1) :=
    Prod.ext (session.ingestion.feedReader_fst session.store { source } (.inl unlimited))
      (session.ingestion.feedReader_eq_feedAll session.store { source })
  rw [ingestSource, fed]
  rfl

theorem ingestSource_working (unlimited : session.config.maxLines = none) (octets : List UInt8) :
    session.ingestSource { octets } =
      (.ok (session.ingest ((linePieces octets).map lineText)).1,
        (session.ingest ((linePieces octets).map lineText)).2) := by
  rw [ingestSource_of_unlimited unlimited, readAll_working]

theorem take_of_holds (unlimited : session.config.maxLines = none) {chunk : Chunk}
    {lines : List String} (holds : chunk.Holds lines) :
    session.take chunk = (session.ingest lines).2 ∧
      session.told chunk = .ok (session.ingest lines).1 := by
  cases holds with
  | lines => exact ⟨rfl, rfl⟩
  | octets unbroken =>
    have same : ((lines.map utf8).map lineText).map TraceLine.parse =
        lines.map TraceLine.parse := by
      rw [List.map_map, List.map_map]
      exact List.map_congr_left fun line _ => parse_lineText line
    have read := ingestSource_working unlimited (feedOctets lines)
    rw [linePieces_feedOctets unbroken, ingest_congr unlimited same] at read
    exact ⟨congrArg Prod.snd read, congrArg Prod.fst read⟩

/-- Lines taken in parts leave what they leave when they are taken at once, and what is counted of
them is what is counted of the parts, added up. -/
theorem takeAll_eq_ingest_flatten (unlimited : session.config.maxLines = none)
    {chunks : List Chunk} {parts : List (List String)}
    (hold : List.Forall₂ Chunk.Holds chunks parts) :
    session.takeAll chunks = (session.ingest parts.flatten).2 ∧
      ∃ summaries : List Summary, session.toldAll chunks = summaries.map .ok ∧
        (session.ingest parts.flatten).1 = Summary.total summaries ∧
        ∀ summary ∈ (session.ingest parts.flatten).1 :: summaries,
          summary.stoppedEarly = false := by
  suffices session.takeAll chunks = (session.ingest parts.flatten).2 ∧
      ∃ summaries : List Summary, session.toldAll chunks = summaries.map .ok ∧
        (session.ingest parts.flatten).1 = Summary.total summaries ∧
        ∀ summary ∈ summaries, summary.stoppedEarly = false by
    obtain ⟨taken, summaries, told, counted, running⟩ := this
    exact ⟨taken, summaries, told, counted,
      List.forall_mem_cons.mpr ⟨ingest_stoppedEarly unlimited _, running⟩⟩
  induction hold generalizing session with
  | nil => exact ⟨rfl, [], rfl, rfl, nofun⟩
  | @cons chunk lines chunks parts holds _ ih =>
    obtain ⟨take, told⟩ := take_of_holds unlimited holds
    have unlimited' : (session.ingest lines).2.config.maxLines = none := unlimited
    obtain ⟨taken, summaries, toldAll', counted, running⟩ := ih unlimited'
    rw [List.flatten_cons, ingest_append unlimited]
    refine ⟨?_, (session.ingest lines).1 :: summaries, ?_, ?_, ?_⟩
    · rw [takeAll, List.foldl_cons, take]
      exact taken
    · rw [toldAll, told, take, toldAll', List.map_cons]
    · rw [Summary.total_cons, counted]
    · exact List.forall_mem_cons.mpr ⟨ingest_stoppedEarly unlimited lines, running⟩

/-- Parts that end between a start and its end, after a clock that goes back, and at once. One of
them has a line feed in a line. -/
def mixedParts : List (List String) :=
  [[], ["new_access name=A-2 type=store addr=0x40\r", "clk 5"],
    ["clk x", "end_access name=A-2\r", "new_access name=A-1 type=load addr=1"], [],
    ["clk 30\nclk 40", "end_access name=A-9"], ["end_access name=A-1", "end_access name=A-1"]]

def mixedChunks : List Chunk :=
  [.lines [], .lines ["new_access name=A-2 type=store addr=0x40\r", "clk 5"],
    .source { octets := utf8 ("clk x\nend_access name=A-2\r\n" ++
      "new_access name=A-1 type=load addr=1\n") }, .source { octets := [] },
    .lines ["clk 30\nclk 40", "end_access name=A-9"],
    .source { octets := utf8 "end_access name=A-1\nend_access name=A-1\n" }]

theorem takeAll_eq_ingest_flatten_mixed :
    resumed.config.maxLines = none ∧ List.Forall₂ Chunk.Holds mixedChunks mixedParts ∧
      (resumed.takeAll mixedChunks).store.toList =
        [⟨⟨1⟩, .load, 0x10, 7, some 30⟩, ⟨⟨2⟩, .store, 0x40, 20, some 20⟩] ∧
      (resumed.takeAll mixedChunks).store.horizon = some 30 ∧
      ∃ summaries : List Summary, resumed.toldAll mixedChunks = summaries.map .ok ∧
        Summary.total summaries = ⟨9, 1, 2, 1, 1, 1, 1, false⟩ ∧
        ∀ summary ∈ summaries, summary.stoppedEarly = false := by
  have octets {held : List UInt8} {all : List String}
      (unbroken : ∀ line ∈ all, '\n' ∉ line.toList) (same : held = feedOctets all) :
      Chunk.Holds (.source { octets := held }) all := same ▸ .octets unbroken
  have hold : List.Forall₂ Chunk.Holds mixedChunks mixedParts :=
    .cons (.lines _) <| .cons (.lines _) <| .cons (octets (by decide) (by decide +kernel)) <|
      .cons (octets nofun rfl) <| .cons (.lines _) <|
      .cons (octets (by decide) (by decide +kernel)) .nil
  obtain ⟨taken, summaries, told, counted, running⟩ :=
    @takeAll_eq_ingest_flatten resumed rfl mixedChunks mixedParts hold
  refine ⟨rfl, hold, ?_, ?_, summaries, told, ?_, (List.forall_mem_cons.mp running).2⟩
  · rw [taken]
    decide +kernel
  · rw [taken]
    decide +kernel
  · rw [← counted]
    decide +kernel

end Session

end AccessTrace
