import AccessTrace.Proofs.Ingest.Run

namespace AccessTrace

open Text LineReader

/-- How lines may be written: each with a line feed behind it or with a carriage return and a line
feed. The last one, if it holds something, may stand without. -/
inductive Written : List String → List UInt8 → Prop where
  | nil : Written [] []
  | last {line : String} (held : line ≠ "") : Written [line] (utf8 line)
  | feed (line : String) {rest : List String} {octets : List UInt8} (later : Written rest octets) :
      Written (line :: rest) (utf8 line ++ lineFeed :: octets)
  | returnFeed (line : String) {rest : List String} {octets : List UInt8}
      (later : Written rest octets) :
      Written (line :: rest) (utf8 line ++ carriageReturn :: lineFeed :: octets)

/-- A line that can be told from what stands behind it. -/
structure IsPlain (line : String) : Prop where
  unbroken : '\n' ∉ line.toList
  ends : line.toList.getLast? ≠ some '\r'

theorem IsPlain.lineText_utf8 {line : String} (plain : IsPlain line) :
    lineText (utf8 line) = line := by
  apply String.ext
  rw [LineReader.lineText_utf8, if_neg plain.ends]

theorem Written.areLines {lines : List String} {octets : List UInt8}
    (written : Written lines octets) (plain : ∀ line ∈ lines, IsPlain line) :
    AreLines octets lines := by
  rw [areLines_iff]
  induction written with
  | nil => rfl
  | @last line held =>
    have plain := plain line (List.mem_singleton_self line)
    have octets : utf8 line ≠ [] := fun none => held (utf8_inj none)
    rw [linePieces_last (lineFeed_not_mem plain.unbroken) octets, List.map_singleton,
      plain.lineText_utf8]
  | @feed line rest octets _ ih =>
    obtain ⟨plain, others⟩ := List.forall_mem_cons.mp plain
    rw [linePieces_line (lineFeed_not_mem plain.unbroken), List.map_cons, plain.lineText_utf8,
      ← ih others]
  | @returnFeed line rest octets _ ih =>
    obtain ⟨plain, others⟩ := List.forall_mem_cons.mp plain
    have unbroken : lineFeed ∉ utf8 line ++ [carriageReturn] := by
      rw [List.mem_append, not_or]
      exact ⟨lineFeed_not_mem plain.unbroken, by decide⟩
    have split : utf8 line ++ carriageReturn :: lineFeed :: octets =
        (utf8 line ++ [carriageReturn]) ++ lineFeed :: octets := by simp
    rw [split, linePieces_line unbroken, List.map_cons, lineText_return, ← ih others]

namespace Ingestion

variable {σ : Type} [Recorder σ]

theorem feedReader_fst (ingestion : Ingestion) (recorder : σ) (reader : LineReader)
    (unstopped : ingestion.maxLines = none ∨ reader.readAll.2 = none) :
    (ingestion.feedReader recorder reader).1 = reader.readAll.2 := by
  induction reader using LineReader.readAll.induct generalizing ingestion recorder with
  | case1 reader error hnext =>
    rw [feedReader_of_error hnext, LineReader.readAll_of_error hnext]
  | case2 reader hnext =>
    rw [feedReader_of_end hnext, LineReader.readAll_of_end hnext]
  | case3 reader line after hnext lines error hread ih =>
    rw [feedReader_of_line hnext]
    rw [LineReader.readAll_of_line hnext] at unstopped ⊢
    cases hfull : ingestion.isFull with
    | true =>
      rcases unstopped with unlimited | none
      · rw [isFull, unlimited] at hfull
        cases hfull
      · exact none.symm
    | false => exact ih _ _ (unstopped.imp_left (feed_maxLines ..).trans)

/-- Octets hold one list of lines, and ingesting the octets is ingesting those. Octets that lines
are written with hold these lines. -/
theorem feedReader_eq_feedAll_of_areLines (ingestion : Ingestion) (recorder : σ)
    (octets : List UInt8) :
    (∃! lines, AreLines octets lines) ∧
      (∀ lines, AreLines octets lines →
        ingestion.feedReader recorder { source := { octets } } =
          (none, ingestion.feedAll recorder lines)) ∧
      ∀ lines, (∀ line ∈ lines, IsPlain line) → Written lines octets →
        AreLines octets lines ∧
          ingestion.feedReader recorder { source := { octets } } =
            (none, ingestion.feedAll recorder lines) := by
  have read : LineReader.readAll { source := { octets } } =
      ((linePieces octets).map lineText, none) := readAll_working octets 0
  have ingested (lines : List String) (held : AreLines octets lines) :
      ingestion.feedReader recorder { source := { octets } } =
        (none, ingestion.feedAll recorder lines) := by
    refine Prod.ext ?_ ?_
    · rw [feedReader_fst ingestion recorder _ (.inr (congrArg Prod.snd read)), read]
    · rw [feedReader_eq_feedAll, read, areLines_iff.mp held]
  refine ⟨⟨_, areLines_iff.mpr rfl, fun lines => areLines_iff.mp⟩, ingested, ?_⟩
  intro lines plain written
  have held := written.areLines plain
  exact ⟨held, ingested lines held⟩

/-- A character that breaks off in front of a line feed, and a line with two carriage returns where
the octets end. -/
def brokenOff : List UInt8 :=
  [0xE2, 0x82, 0x0A, 0x63, 0x6C, 0x6B, 0x20, 0x39, 0x0D, 0x0D]

theorem feedReader_eq_feedAll_brokenOff :
    AreLines brokenOff ["\uFFFD", "clk 9\r"] ∧
      Ingestion.feedReader { clock := 5 } Store.empty { source := { octets := brokenOff } } =
        (none, { clock := 9, summary := { lines := 2 } }, Store.empty.observe 9) ∧
      Ingestion.feedReader { maxLines := some 1 } Store.empty
          { source := { octets := brokenOff } } =
        (none, { maxLines := some 1, summary := { lines := 1, stoppedEarly := true } }, .empty) ∧
      Written ["clk 9", "", "clk 11"] (utf8 "clk 9\r\n\nclk 11") ∧
      Ingestion.feedReader {} Store.empty { source := { octets := utf8 "clk 9\r\n\nclk 11" } } =
        (none, { clock := 11, summary := { lines := 3 } }, Store.empty.observe 11) := by
  have held : AreLines brokenOff ["\uFFFD", "clk 9\r"] := areLines_iff.mpr (by decide +kernel)
  have written : Written ["clk 9", "", "clk 11"] (utf8 "clk 9\r\n\nclk 11") :=
    .returnFeed "clk 9" (.feed "" (.last (by decide)))
  have plain : ∀ line ∈ ["clk 9", "", "clk 11"], IsPlain line := by
    intro line member
    simp only [List.mem_cons, List.not_mem_nil, or_false] at member
    rcases member with rfl | rfl | rfl <;> exact ⟨by decide, by decide⟩
  have unlimited := (feedReader_eq_feedAll_of_areLines { clock := 5 } Store.empty brokenOff).2.1
  have limited :=
    (feedReader_eq_feedAll_of_areLines { maxLines := some 1 } Store.empty brokenOff).2.1
  have mixed := (feedReader_eq_feedAll_of_areLines {} Store.empty _).2.2 _ plain written
  exact ⟨held, (unlimited _ held).trans (by decide +kernel),
    (limited _ held).trans (by decide +kernel), written, mixed.2.trans (by decide +kernel)⟩

end Ingestion

end AccessTrace
