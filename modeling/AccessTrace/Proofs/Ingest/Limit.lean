import AccessTrace.Proofs.Ingest.Counts

/-! A limit on the number of lines. It does not matter at which of several calls it is reached: the
lines up to it are taken, and of those beyond it nothing is known but that there are some. -/

namespace AccessTrace.Ingestion

variable {σ : Type}

/-- The same but for what is known of a line beyond the limit. -/
def SameUpToStop (one other : Ingestion × σ) : Prop :=
  one.2 = other.2 ∧ one.1 =
    { other.1 with summary.stoppedEarly := one.1.summary.stoppedEarly }

theorem sameUpToStop_stopIf (ingestion : Ingestion) (recorder : σ) (one other : Bool) :
    SameUpToStop (ingestion.stopIf one, recorder) (ingestion.stopIf other, recorder) := by
  cases one <;> cases other <;> exact ⟨rfl, rfl⟩

variable [Recorder σ]

def feedEach (ingestion : Ingestion) (recorder : σ) (calls : List (List String)) : Ingestion × σ :=
  calls.foldl (fun state lines => state.1.feedAll state.2 lines) (ingestion, recorder)

theorem feedEach_cons (ingestion : Ingestion) (recorder : σ) (lines : List String)
    (calls : List (List String)) :
    ingestion.feedEach recorder (lines :: calls) =
      (ingestion.feedAll recorder lines).1.feedEach (ingestion.feedAll recorder lines).2 calls := rfl

theorem feedAll_stop {ingestion : Ingestion} (full : ingestion.isFull = true) (recorder : σ)
    (lines : List String) : ingestion.stop.feedAll recorder lines = (ingestion.stop, recorder) := by
  cases lines with
  | nil => rfl
  | cons line rest =>
    have full : ingestion.stop.isFull = true := full
    rw [feedAll, if_pos full]
    rfl

/-- An ingestion that has stopped stops again where the next call has a line. -/
theorem feedAll_append (ingestion : Ingestion) (recorder : σ) (front rest : List String) :
    ingestion.feedAll recorder (front ++ rest) =
      (ingestion.feedAll recorder front).1.feedAll (ingestion.feedAll recorder front).2 rest := by
  induction front generalizing ingestion recorder with
  | nil => rfl
  | cons line front ih =>
    rw [List.cons_append, feedAll, feedAll]
    cases full : ingestion.isFull with
    | true => exact (feedAll_stop full recorder rest).symm
    | false => exact ih _ _

theorem feedEach_eq_feedAll (ingestion : Ingestion) (recorder : σ) (calls : List (List String)) :
    ingestion.feedEach recorder calls = ingestion.feedAll recorder calls.flatten := by
  induction calls generalizing ingestion recorder with
  | nil => rfl
  | cons lines calls ih => rw [feedEach_cons, ih, List.flatten_cons, feedAll_append]

theorem feedLines_limited (ingestion : Ingestion) (most : Option Nat) (recorder : σ)
    (lines : List String) :
    { ingestion with maxLines := most }.feedLines recorder lines =
      ({ (ingestion.feedLines recorder lines).1 with maxLines := most },
        (ingestion.feedLines recorder lines).2) := by
  induction lines generalizing ingestion recorder with
  | nil => rfl
  | cons line rest ih =>
    rw [feedLines_cons, feedLines_cons]
    exact ih (ingestion.feed recorder line).1 (ingestion.feed recorder line).2

theorem feedLines_lines (ingestion : Ingestion) (recorder : σ) (lines : List String) :
    (ingestion.feedLines recorder lines).1.summary.lines =
      ingestion.summary.lines + lines.length := by
  induction lines generalizing ingestion recorder with
  | nil => rfl
  | cons line rest ih =>
    rw [feedLines_cons, ih, feed_lines, List.length_cons]
    omega

def upTo (most : Option Nat) (lines : List String) : List String :=
  match most with
  | some most => lines.take most
  | none => lines

theorem length_upTo (most : Option Nat) (lines : List String) :
    (upTo most lines).length =
      match most with
      | some most => min most lines.length
      | none => lines.length := by
  cases most <;> simp [upTo]

theorem length_upTo_lt_iff (most : Option Nat) (lines : List String) :
    (upTo most lines).length < lines.length ↔ ∃ limit, most = some limit ∧ limit < lines.length := by
  rw [length_upTo]
  cases most with
  | none => simp
  | some most =>
    simp only [Option.some.injEq, exists_eq_left']
    omega

theorem room_begun (clock : Cycle) (most : Option Nat) (lines : List String) :
    room { clock, maxLines := most } lines.length = (upTo most lines).length := by
  rw [length_upTo]
  cases most with
  | none => rfl
  | some most => simp [room, Nat.min_comm]

theorem take_length_upTo (most : Option Nat) (lines : List String) :
    lines.take (upTo most lines).length = upTo most lines := by
  cases most with
  | none => simp [upTo]
  | some most => simp [upTo, List.take_eq_take_iff]

theorem feedEach_begun (clock : Cycle) (most : Option Nat) (recorder : σ)
    (calls : List (List String)) :
    feedEach { clock, maxLines := most } recorder calls =
      (stopIf { (feedAll { clock } recorder (upTo most calls.flatten)).1 with maxLines := most }
          ((upTo most calls.flatten).length < calls.flatten.length),
        (feedAll { clock } recorder (upTo most calls.flatten)).2) := by
  rw [feedEach_eq_feedAll, feedAll_eq_feedLines, room_begun, take_length_upTo,
    feedAll_of_unlimited rfl]
  have limited := feedLines_limited { clock } most recorder (upTo most calls.flatten)
  rw [limited]

/-- How an ingestion with a limit ends, given how one without it ends on the lines up to it. -/
structure EndsAtLimit (most : Option Nat) (lines : List String)
    (plain limited : Ingestion × σ) : Prop where
  recorder : limited.2 = plain.2
  clock : limited.1.clock = plain.1.clock
  counts : limited.1.summary =
    { plain.1.summary with stoppedEarly := limited.1.summary.stoppedEarly }
  lineCount : limited.1.summary.lines =
    match most with
    | some most => min most lines.length
    | none => lines.length
  stoppedEarly : limited.1.summary.stoppedEarly = true ↔
    ∃ limit, most = some limit ∧ limit < lines.length

/-- Whatever calls its lines come in, a limited ingestion ends as if it had got the lines up to its
limit at once and had no limit, and it tells whether there were more lines. Other calls with the
same lines up to the limit make no other difference. -/
theorem feedEach_endsAtLimit (clock : Cycle) (most : Option Nat) (recorder : σ)
    (calls : List (List String)) :
    EndsAtLimit most calls.flatten (feedAll { clock } recorder (upTo most calls.flatten))
        (feedEach { clock, maxLines := most } recorder calls) ∧
      ∀ others : List (List String), upTo most others.flatten = upTo most calls.flatten →
        SameUpToStop (feedEach { clock, maxLines := most } recorder others)
          (feedEach { clock, maxLines := most } recorder calls) := by
  have fresh : (feedAll { clock } recorder (upTo most calls.flatten)).1.summary.stoppedEarly =
      false := by
    rw [feedAll_of_unlimited rfl]
    exact feedLines_stoppedEarly _ _ _
  have lines : (feedAll { clock } recorder (upTo most calls.flatten)).1.summary.lines =
      (upTo most calls.flatten).length := by
    rw [feedAll_of_unlimited rfl, feedLines_lines, Nat.zero_add]
  constructor
  · rw [feedEach_begun]
    constructor
    · rfl
    · rw [stopIf_clock]
    · rw [stopIf_summary]
    · rw [stopIf_summary, lines, length_upTo]
    · rw [stopIf_summary, fresh, Bool.or_false, decide_eq_true_iff, length_upTo_lt_iff]
  · intro others same
    rw [feedEach_begun, feedEach_begun, same]
    exact sameUpToStop_stopIf _ _ _ _

def threeCalls : List (List String) :=
  [["clk 5"], [], ["new_access name=A-1 type=load addr=0x10", "clk 9", "end_access name=A-1"],
    ["clk 12"]]

theorem feedEach_endsAtLimit_midCall :
    upTo (some 2) threeCalls.flatten = ["clk 5", "new_access name=A-1 type=load addr=0x10"] ∧
      (feedEach { clock := 3, maxLines := some 2 } Store.empty threeCalls).1 =
        ⟨5, some 2, { lines := 2, added := 1, stoppedEarly := true }⟩ ∧
      (feedEach { clock := 3, maxLines := some 2 } Store.empty threeCalls).2.toList =
        [⟨⟨1⟩, .load, 0x10, 5, none⟩] ∧
      SameUpToStop
        (feedEach { clock := 3, maxLines := some 2 } Store.empty [threeCalls.flatten.take 2])
        (feedEach { clock := 3, maxLines := some 2 } Store.empty threeCalls) := by
  obtain ⟨ends, others⟩ := feedEach_endsAtLimit 3 (some 2) Store.empty threeCalls
  exact ⟨by decide +kernel, by decide +kernel, by rw [ends.recorder]; decide +kernel,
    others _ (by decide +kernel)⟩

end AccessTrace.Ingestion
