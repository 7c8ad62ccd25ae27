import AccessTrace.Proofs.Ingest.Lines

/-! A trace that does not grow meanwhile is ingested as its source is, and what is logged of it is
what is logged of its lines. -/

namespace AccessTrace

namespace Ingestion

variable {σ : Type} [Recorder σ]

theorem feedLogged_snd (ingestion : Ingestion) (recorder : σ) (line : String) :
    (ingestion.feedLogged recorder line).2 = ingestion.feed recorder line := rfl

/-- Every line takes an octet at least, so there are enough steps to come to the end. -/
theorem growFor_silent (period : Period) (due : Bool) (ingestion : Ingestion) (recorder : σ)
    (reader : LineReader) {steps : Nat} (enough : reader.source.octets.length < steps) :
    growFor (fun _ => []) period due ingestion recorder reader steps =
      ((ingestion.feedReader recorder reader).1,
        feedEvents period due ingestion recorder reader.readAll.1,
        (ingestion.feedReader recorder reader).2) := by
  induction steps generalizing due ingestion recorder reader with
  | zero => exact absurd enough (Nat.not_lt_zero _)
  | succ steps ih =>
    rw [growFor]
    split
    · next error next =>
      rw [feedReader_of_error next, LineReader.readAll_of_error next, feedEvents]
    · next next =>
      rw [feedReader_of_end next, LineReader.readAll_of_end next, feedEvents]
    · next line after next =>
      rw [feedReader_of_line next, LineReader.readAll_of_line next, feedEvents]
      cases ingestion.isFull with
      | true => rfl
      | false =>
        have fewer : after.source.octets.length < steps :=
          Nat.lt_of_lt_of_le (LineReader.length_next next) (Nat.le_of_lt_succ enough)
        have later := ih period.isOverByNextLine (ingestion.feed recorder line).1
          (ingestion.feed recorder line).2 after fewer
        simp only [← feedLogged_snd] at later ⊢
        simp only [Bool.false_eq_true, if_false, LineReader.extend, List.isEmpty_nil, if_true,
          later]

theorem feedGrowing_silent (ingestion : Ingestion) (period : Period) (recorder : σ)
    (reader : LineReader) :
    ingestion.feedGrowing (fun _ => []) period recorder reader =
      ((ingestion.feedReader recorder reader).1,
        ingestion.events period recorder reader.readAll.1,
        (ingestion.feedReader recorder reader).2) :=
  growFor_silent period _ ingestion recorder reader (Nat.lt_add_of_pos_left (by decide))

end Ingestion

namespace Session

variable {session other : Session}

theorem ingestGrowing_silent (session : Session) (source : Source) :
    session.ingestGrowing (fun _ => []) source =
      ((session.ingestSource source).1, session.ingestSourceEvents source,
        (session.ingestSource source).2) := by
  simp only [ingestGrowing, Ingestion.feedGrowing_silent, ingestSourceEvents, ingestSource]
  cases (session.ingestion.feedReader session.store { source }).1 with
  | none => rfl
  | some reason => simp only [List.append_nil]

theorem ingestSourceEvents_of_areLines (session : Session) {octets : List UInt8}
    {lines : List String} (held : LineReader.AreLines octets lines) :
    session.ingestSourceEvents { octets } = session.ingestEvents lines := by
  have read : LineReader.readAll { source := { octets } } = (lines, none) := by
    rw [LineReader.areLines_iff.mp held]
    exact LineReader.readAll_working octets 0
  have fed : session.ingestion.feedReader session.store { source := { octets } } =
      (none, session.ingestion.feedAll session.store lines) := by
    apply Prod.ext
    · rw [Ingestion.feedReader_fst _ _ _ (.inr (congrArg Prod.snd read)), read]
    · rw [Ingestion.feedReader_eq_feedAll, read]
  simp only [ingestSourceEvents, ingestEvents, ingestSource, ingest, fed, read]

theorem ingestSource_congr (store : other.store = session.store)
    (maxLines : other.config.maxLines = session.config.maxLines) (source : Source) :
    (other.ingestSource source).1 = (session.ingestSource source).1 ∧
      (other.ingestSource source).2.store = (session.ingestSource source).2.store := by
  have start : other.ingestion = session.ingestion := by
    rw [ingestion, ingestion, store, maxLines]
  simp only [ingestSource, start, store]
  exact ⟨trivial, trivial⟩

end Session

end AccessTrace
