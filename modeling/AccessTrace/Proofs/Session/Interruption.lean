import AccessTrace.Proofs.Session.Splitting
import Mathlib.Data.List.DropRight

namespace AccessTrace

open Text

namespace LineReader

/-- How many octets there are up to the last line feed; none without one. -/
def wholeLength (octets : List UInt8) : Nat :=
  (octets.rdropWhile (· ≠ lineFeed)).length

theorem wholeLength_spec (octets : List UInt8) :
    EndsLine (octets.take (wholeLength octets)) ∧
      lineFeed ∉ octets.drop (wholeLength octets) := by
  have whole : octets.rdropWhile (· ≠ lineFeed) = octets.take (wholeLength octets) :=
    List.prefix_iff_eq_take.mp (octets.rdropWhile_prefix _)
  have parted : octets.take (wholeLength octets) ++ octets.rtakeWhile (· ≠ lineFeed) =
      octets.take (wholeLength octets) ++ octets.drop (wholeLength octets) := by
    rw [List.take_append_drop, ← whole, List.rdropWhile_append_rtakeWhile]
  have part := List.append_cancel_left parted
  constructor
  · rw [← whole]
    intro last final
    obtain ⟨some, rfl⟩ := List.mem_getLast?_eq_getLast final
    simpa using List.rdropWhile_last_not _ octets some
  · rw [← part]
    intro member
    simpa using List.mem_rtakeWhile_imp member

theorem wholeLength_le (octets : List UInt8) : wholeLength octets ≤ octets.length :=
  (octets.rdropWhile_prefix _).length_le

theorem exists_take_eq (octets : List UInt8) (count : Nat) :
    let cut := wholeLength (octets.take count)
    EndsLine (octets.take cut) ∧
      ∃ piece, octets.take count = octets.take cut ++ piece ∧ lineFeed ∉ piece := by
  intro cut
  obtain ⟨ends, unbroken⟩ := wholeLength_spec (octets.take count)
  have within : cut ≤ count := Nat.le_trans (wholeLength_le _) (List.length_take_le count octets)
  have front : (octets.take count).take cut = octets.take cut := by
    rw [List.take_take, Nat.min_eq_left within]
  refine ⟨front ▸ ends, _, ?_, unbroken⟩
  rw [← front, List.take_append_drop]

end LineReader

namespace Session

open LineReader

variable {session : Session}

theorem ingestSource_failing (unlimited : session.config.maxLines = none)
    {whole piece : List UInt8} (ends : EndsLine whole) (unbroken : lineFeed ∉ piece)
    (cause : OsError) :
    session.ingestSource { octets := whole ++ piece, failure := some cause } =
      (.error ⟨⟨whole.count lineFeed + 1, cause⟩⟩,
        (session.ingest ((linePieces whole).map lineText)).2) := by
  rw [ingestSource_of_unlimited unlimited, readAll_failing ends unbroken, Nat.zero_add]

theorem ingestSource_append (unlimited : session.config.maxLines = none)
    {whole : List UInt8} (ends : EndsLine whole) (rest : List UInt8) :
    (session.ingestSource { octets := whole ++ rest }).2 =
      ((session.ingest ((linePieces whole).map lineText)).2.ingestSource { octets := rest }).2 := by
  have unlimited' : (session.ingest ((linePieces whole).map lineText)).2.config.maxLines = none :=
    unlimited
  rw [ingestSource_working unlimited, ingestSource_working unlimited', linePieces_append ends,
    List.map_append, ingest_append unlimited]

/-- Where a source breaks off, its whole lines are taken and nothing of the line that is cut. The
number of that line is told. What comes from the cut line on completes the trace. -/
theorem ingestSource_brokenOff (unlimited : session.config.maxLines = none) (octets : List UInt8)
    (count : Nat) (cause : OsError) :
    let handed := octets.take count
    let broken := session.ingestSource { octets := handed, failure := some cause }
    (∃ error, broken.1 = .error error ∧
      error.chain = [.text "Unable to ingest trace", .text "Unable to read trace",
        .text s!"Unable to read line {handed.count lineFeed + 1}", .os cause]) ∧
    (∃ summary, session.ingestSource { octets := octets.take (wholeLength handed) } =
      (.ok summary, broken.2)) ∧
    ∃ summary, broken.2.ingestSource { octets := octets.drop (wholeLength handed) } =
      (.ok summary, (session.ingestSource { octets }).2) := by
  intro handed broken
  obtain ⟨ends, piece, parted, unbroken⟩ := exists_take_eq octets count
  change handed = octets.take (wholeLength handed) ++ piece at parted
  have feeds : handed.count lineFeed = (octets.take (wholeLength handed)).count lineFeed := by
    conv_lhs => rw [parted, List.count_append, List.count_eq_zero.mpr unbroken, Nat.add_zero]
  have failed := ingestSource_failing unlimited ends unbroken cause
  rw [← parted, ← feeds] at failed
  change broken = _ at failed
  have unlimited' : broken.2.config.maxLines = none := unlimited
  have whole : (session.ingestSource { octets }).2 =
      (broken.2.ingestSource { octets := octets.drop (wholeLength handed) }).2 := by
    have parts := ingestSource_append unlimited ends (octets.drop (wholeLength handed))
    rwa [List.take_append_drop, ← congrArg Prod.snd failed] at parts
  refine ⟨⟨_, congrArg Prod.fst failed, rfl⟩, ?_, ?_⟩
  · rw [ingestSource_working unlimited, failed]
    exact ⟨_, rfl⟩
  · rw [whole, ingestSource_working unlimited']
    exact ⟨_, rfl⟩

/-- The source breaks off between the two octets of a character. -/
def umlautTrace : List UInt8 :=
  utf8 "clk 7\r\nnew_access name=A-1 type=l\u00F6 addr=1\nclk 9"

theorem ingestSource_brokenOff_umlaut :
    (plainly .empty).config.maxLines = none ∧ wholeLength (umlautTrace.take 34) = 7 ∧
      ∃ error broken, (plainly .empty).ingestSource
          { octets := umlautTrace.take 34, failure := some .other } = (.error error, broken) ∧
        error.chain = [.text "Unable to ingest trace", .text "Unable to read trace",
          .text "Unable to read line 2", .os .other] ∧
        broken.store.toList = [] ∧ broken.store.horizon = some 7 ∧
        ∃ summary after,
          broken.ingestSource { octets := umlautTrace.drop 7 } = (.ok summary, after) ∧
          after.store.toList = [⟨⟨1⟩, .other "l\u00F6", 1, 7, none⟩] ∧
          after.store.horizon = some 9 := by
  have cut : wholeLength (umlautTrace.take 34) = 7 := by decide +kernel
  obtain ⟨⟨error, failed, chain⟩, ⟨summary, whole⟩, later, completed⟩ :=
    @ingestSource_brokenOff (plainly .empty) rfl umlautTrace 34 .other
  rw [cut] at whole completed
  have after (session : Session) (same : session =
      ((plainly .empty).ingestSource { octets := umlautTrace.take 7 }).2) :
      session.store.toList = [] ∧ session.store.horizon = some 7 := by
    rw [same]
    decide +kernel
  obtain ⟨none, horizon⟩ := after _ (congrArg Prod.snd whole).symm
  exact ⟨rfl, cut, error, _, Prod.ext failed rfl, chain.trans (by decide +kernel), none, horizon,
    later, _, completed, by decide +kernel, by decide +kernel⟩

end Session

end AccessTrace
