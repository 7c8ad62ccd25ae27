import AccessTrace.Proofs.Ingest.Run
import Mathlib.Algebra.Ring.Nat

namespace AccessTrace

namespace Summary

def plus (first second : Summary) : Summary where
  lines := first.lines + second.lines
  added := first.added + second.added
  closed := first.closed + second.closed
  duplicates := first.duplicates + second.duplicates
  unknownEnds := first.unknownEnds + second.unknownEnds
  repeatedEnds := first.repeatedEnds + second.repeatedEnds
  malformed := first.malformed + second.malformed
  stoppedEarly := first.stoppedEarly || second.stoppedEarly

def total (parts : List Summary) : Summary where
  lines := (parts.map (·.lines)).sum
  added := (parts.map (·.added)).sum
  closed := (parts.map (·.closed)).sum
  duplicates := (parts.map (·.duplicates)).sum
  unknownEnds := (parts.map (·.unknownEnds)).sum
  repeatedEnds := (parts.map (·.repeatedEnds)).sum
  malformed := (parts.map (·.malformed)).sum
  stoppedEarly := parts.any (·.stoppedEarly)

theorem total_cons (first : Summary) (rest : List Summary) :
    total (first :: rest) = first.plus (total rest) := by
  simp [total, plus]

@[simp] theorem plus_empty (summary : Summary) : summary.plus {} = summary := by
  simp [plus]

theorem plus_countLine (earlier summary : Summary) (effect : LineEffect) :
    earlier.plus (summary.countLine effect) = (earlier.plus summary).countLine effect := by
  unfold countLine countEffect
  split <;> simp [plus, Nat.add_assoc]

@[simp] theorem stoppedEarly_countLine (summary : Summary) (effect : LineEffect) :
    (summary.countLine effect).stoppedEarly = summary.stoppedEarly := by
  unfold countLine countEffect
  split <;> rfl

end Summary

namespace Ingestion

variable {σ : Type} [Recorder σ]

/-- The ingestion with what an earlier one has counted. -/
def continuing (ingestion : Ingestion) (earlier : Summary) : Ingestion :=
  { ingestion with summary := earlier.plus ingestion.summary }

theorem continuing_eq {next ingestion : Ingestion} (clock : next.clock = ingestion.clock)
    (most : next.maxLines = ingestion.maxLines) (fresh : next.summary = {}) :
    next.continuing ingestion.summary = ingestion := by
  rw [continuing, clock, most, fresh, Summary.plus_empty]

theorem feed_continuing (ingestion : Ingestion) (earlier : Summary) (recorder : σ)
    (line : String) : (ingestion.continuing earlier).feed recorder line =
      ((ingestion.feed recorder line).1.continuing earlier, (ingestion.feed recorder line).2) := by
  simp only [feed, count, continuing, Summary.plus_countLine]

theorem feedLines_continuing (ingestion : Ingestion) (earlier : Summary) (recorder : σ)
    (lines : List String) : (ingestion.continuing earlier).feedLines recorder lines =
      ((ingestion.feedLines recorder lines).1.continuing earlier,
        (ingestion.feedLines recorder lines).2) := by
  induction lines generalizing ingestion recorder with
  | nil => rfl
  | cons line rest ih => rw [feedLines_cons, feed_continuing, ih, feedLines_cons]

theorem feedLines_append (ingestion : Ingestion) (recorder : σ) (front rest : List String) :
    ingestion.feedLines recorder (front ++ rest) =
      (ingestion.feedLines recorder front).1.feedLines
        (ingestion.feedLines recorder front).2 rest :=
  List.foldl_append

@[simp] theorem feedLines_maxLines (ingestion : Ingestion) (recorder : σ) (lines : List String) :
    (ingestion.feedLines recorder lines).1.maxLines = ingestion.maxLines := by
  induction lines generalizing ingestion recorder with
  | nil => rfl
  | cons line rest ih => rw [feedLines_cons, ih, feed_maxLines]

@[simp] theorem feedLines_stoppedEarly (ingestion : Ingestion) (recorder : σ)
    (lines : List String) : (ingestion.feedLines recorder lines).1.summary.stoppedEarly =
      ingestion.summary.stoppedEarly := by
  induction lines generalizing ingestion recorder with
  | nil => rfl
  | cons line rest ih =>
    rw [feedLines_cons, ih]
    exact Summary.stoppedEarly_countLine _ _

theorem feedLines_congr {lines others : List String}
    (same : lines.map TraceLine.parse = others.map TraceLine.parse) (ingestion : Ingestion)
    (recorder : σ) : ingestion.feedLines recorder lines = ingestion.feedLines recorder others := by
  induction lines generalizing others ingestion recorder with
  | nil => rw [List.map_eq_nil_iff.mp same.symm]
  | cons line rest ih =>
    obtain ⟨other, others, rfl, first, later⟩ := List.map_eq_cons_iff.mp same.symm
    have fed : ingestion.feed recorder line = ingestion.feed recorder other := by
      simp only [feed, effect, first]
    rw [feedLines_cons, feedLines_cons, fed, ih later.symm]

end Ingestion

namespace Session

variable {session : Session}

theorem ingest_of_unlimited (unlimited : session.config.maxLines = none) (lines : List String) :
    session.ingest lines =
      ((session.ingestion.feedLines session.store lines).1.summary,
        { session with store := (session.ingestion.feedLines session.store lines).2 }) := by
  rw [ingest, Ingestion.feedAll_of_unlimited unlimited]

theorem ingestion_ingest (unlimited : session.config.maxLines = none) (lines : List String) :
    (session.ingest lines).2.ingestion.continuing (session.ingest lines).1 =
      (session.ingestion.feedLines session.store lines).1 := by
  have resumes := Ingestion.feedLines_keeps (P := fun ingestion store => ingestion.Resumes store)
    (fun _ _ line resumes => resumes.feed line) session.resumes lines
  have most := session.ingestion.feedLines_maxLines session.store lines
  rw [ingest_of_unlimited unlimited]
  exact Ingestion.continuing_eq resumes.symm most.symm rfl

theorem ingest_append (unlimited : session.config.maxLines = none) (front rest : List String) :
    session.ingest (front ++ rest) =
      ((session.ingest front).1.plus ((session.ingest front).2.ingest rest).1,
        ((session.ingest front).2.ingest rest).2) := by
  have unlimited' : (session.ingest front).2.config.maxLines = none := unlimited
  have store : (session.ingest front).2.store =
      (session.ingestion.feedLines session.store front).2 := by
    rw [ingest_of_unlimited unlimited]
  rw [ingest_of_unlimited unlimited, Ingestion.feedLines_append, ← ingestion_ingest unlimited,
    Ingestion.feedLines_continuing, ← store, ingest_of_unlimited unlimited']
  rfl

theorem ingest_stoppedEarly (unlimited : session.config.maxLines = none) (lines : List String) :
    (session.ingest lines).1.stoppedEarly = false := by
  rw [ingest_of_unlimited unlimited]
  exact session.ingestion.feedLines_stoppedEarly session.store lines

theorem ingest_congr (unlimited : session.config.maxLines = none) {lines others : List String}
    (same : lines.map TraceLine.parse = others.map TraceLine.parse) :
    session.ingest lines = session.ingest others := by
  rw [ingest_of_unlimited unlimited, ingest_of_unlimited unlimited,
    Ingestion.feedLines_congr same]

end Session

end AccessTrace
