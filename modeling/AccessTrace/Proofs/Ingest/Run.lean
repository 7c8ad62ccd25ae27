import AccessTrace.Proofs.Store.Indices
import AccessTrace.Proofs.Trace.Reader
import AccessTrace.Session

namespace AccessTrace

def cycleOf? (line : String) : Option Cycle :=
  match TraceLine.parse line with
  | .ok (.clock cycle) => some cycle
  | _ => none

def startOf? (id : AccessId) (line : String) : Option (AccessKind × Address) :=
  match TraceLine.parse line with
  | .ok (.newAccess started kind address) => if id = started then some (kind, address) else none
  | _ => none

def isEndOf (id : AccessId) (line : String) : Bool :=
  match TraceLine.parse line with
  | .ok (.endAccess ended) => id = ended
  | _ => false

def clockStep (clock : Cycle) (line : String) : Cycle :=
  match cycleOf? line with
  | some cycle => max clock cycle
  | none => clock

def horizonStep (horizon : Option Cycle) (line : String) : Option Cycle :=
  match cycleOf? line with
  | some cycle => some (max (horizon.getD 0) cycle)
  | none => horizon

def accessStep (clock : Cycle) (line : String) (id : AccessId) : Option Access → Option Access
  | some access => some (if isEndOf id line then access.endedBy (some clock) else access)
  | none => (startOf? id line).map fun (kind, address) => { id, kind, address, start := clock }

theorem le_clockStep (clock : Cycle) (line : String) : clock ≤ clockStep clock line := by
  unfold clockStep
  split
  · exact Std.left_le_max
  · exact UInt64.le_refl _

theorem clockStep_getD (horizon : Option Cycle) (line : String) :
    clockStep (horizon.getD 0) line = (horizonStep horizon line).getD 0 := by
  unfold clockStep horizonStep
  split <;> rfl

/-- A law of accesses under a clock that goes on: it holds of an access that starts, of one that
ends, and at any later clock. -/
structure TimelyLaw (P : Cycle → Access → Prop) : Prop where
  later {c d : Cycle} {a : Access} : c ≤ d → P c a → P d a
  started (c : Cycle) (id : AccessId) (kind : AccessKind) (address : Address) :
    P c { id, kind, address, start := c }
  ended {c : Cycle} {a : Access} : P c a → P c (a.endedBy (some c))

def Store.Obeys (store : Store) (P : Cycle → Access → Prop) : Prop :=
  ∀ a ∈ store.accesses, P (store.horizon.getD 0) a

namespace Ingestion

section Recorders

variable {σ : Type} [Recorder σ]

def feedLines (ingestion : Ingestion) (recorder : σ) (lines : List String) : Ingestion × σ :=
  lines.foldl (fun state line => state.1.feed state.2 line) (ingestion, recorder)

@[simp] theorem feedLines_nil (ingestion : Ingestion) (recorder : σ) :
    ingestion.feedLines recorder [] = (ingestion, recorder) := rfl

theorem feedLines_cons (ingestion : Ingestion) (recorder : σ) (line : String)
    (rest : List String) :
    ingestion.feedLines recorder (line :: rest) =
      (ingestion.feed recorder line).1.feedLines (ingestion.feed recorder line).2 rest := rfl

@[simp] theorem feed_maxLines (ingestion : Ingestion) (recorder : σ) (line : String) :
    (ingestion.feed recorder line).1.maxLines = ingestion.maxLines := rfl

theorem countEffect_lines (summary : Summary) (effect : LineEffect) :
    (summary.countEffect effect).lines = summary.lines := by
  unfold Summary.countEffect
  split <;> rfl

@[simp] theorem feed_lines (ingestion : Ingestion) (recorder : σ) (line : String) :
    (ingestion.feed recorder line).1.summary.lines = ingestion.summary.lines + 1 :=
  countEffect_lines _ _

theorem feed_clock (ingestion : Ingestion) (recorder : σ) (line : String) :
    (ingestion.feed recorder line).1.clock = clockStep ingestion.clock line := by
  simp only [feed, count, effect, clockStep, cycleOf?]
  cases TraceLine.parse line with
  | error error => rfl
  | ok said =>
    cases said with
    | clock cycle =>
      simp only [apply]
      split
      · next back => exact (max_of_ge (UInt64.le_of_lt back)).symm
      · next forth => exact (max_of_le (UInt64.not_lt.mp forth)).symm
    | newAccess id kind address =>
      simp only [apply]
      split <;> rfl
    | endAccess id => rfl
    | other => rfl

def room (ingestion : Ingestion) (lines : Nat) : Nat :=
  match ingestion.maxLines with
  | some most => min lines (most - ingestion.summary.lines)
  | none => lines

theorem isFull_iff (ingestion : Ingestion) (lines : Nat) :
    ingestion.isFull = true ↔ ingestion.room (lines + 1) = 0 := by
  unfold isFull room
  cases ingestion.maxLines with
  | none => simp
  | some most =>
    simp only [decide_eq_true_eq]
    omega

theorem room_succ {ingestion : Ingestion} (h : ingestion.isFull = false) (recorder : σ)
    (line : String) (lines : Nat) :
    ingestion.room (lines + 1) = (ingestion.feed recorder line).1.room lines + 1 := by
  unfold isFull at h
  unfold room
  rw [feed_maxLines, feed_lines]
  cases hmax : ingestion.maxLines with
  | none => rfl
  | some most =>
    simp only [hmax, decide_eq_false_iff_not] at h
    simp only
    omega

def stopIf (ingestion : Ingestion) (more : Bool) : Ingestion :=
  if more then ingestion.stop else ingestion

@[simp] theorem stopIf_clock (ingestion : Ingestion) (more : Bool) :
    (ingestion.stopIf more).clock = ingestion.clock := by
  cases more <;> rfl

@[simp] theorem stopIf_summary (ingestion : Ingestion) (more : Bool) :
    (ingestion.stopIf more).summary =
      { ingestion.summary with stoppedEarly := more || ingestion.summary.stoppedEarly } := by
  cases more <;> rfl

/-- A limited ingestion does with all lines what an unlimited one does with those it has room
for. It stops early if there are others. -/
theorem feedAll_eq_feedLines (ingestion : Ingestion) (recorder : σ) (lines : List String) :
    ingestion.feedAll recorder lines =
      ((ingestion.feedLines recorder (lines.take (ingestion.room lines.length))).1.stopIf
          (ingestion.room lines.length < lines.length),
        (ingestion.feedLines recorder (lines.take (ingestion.room lines.length))).2) := by
  induction lines generalizing ingestion recorder with
  | nil => simp [feedAll, stopIf]
  | cons line rest ih =>
    rw [feedAll, List.length_cons]
    cases hfull : ingestion.isFull with
    | true => simp [(isFull_iff ingestion rest.length).mp hfull, stopIf]
    | false =>
      rw [room_succ hfull recorder line, List.take_succ_cons, feedLines_cons]
      simp only [Nat.add_lt_add_iff_right]
      exact ih _ _

theorem feedAll_of_unlimited {ingestion : Ingestion} (unlimited : ingestion.maxLines = none)
    (recorder : σ) (lines : List String) :
    ingestion.feedAll recorder lines = ingestion.feedLines recorder lines := by
  induction lines generalizing ingestion recorder with
  | nil => rfl
  | cons line rest ih =>
    have hfull : ingestion.isFull = false := by rw [isFull, unlimited]
    rw [feedAll, hfull]
    exact ih ((feed_maxLines ..).trans unlimited) _

theorem feedReader_of_error {reader : LineReader} {error : ReadError}
    (h : reader.next? = .error error) (ingestion : Ingestion) (recorder : σ) :
    ingestion.feedReader recorder reader = (some error, ingestion, recorder) := by
  rw [feedReader]
  split <;> simp_all

theorem feedReader_of_end {reader : LineReader} (h : reader.next? = .ok none)
    (ingestion : Ingestion) (recorder : σ) :
    ingestion.feedReader recorder reader = (none, ingestion, recorder) := by
  rw [feedReader]
  split <;> simp_all

theorem feedReader_of_line {reader after : LineReader} {line : String}
    (h : reader.next? = .ok (some (line, after))) (ingestion : Ingestion) (recorder : σ) :
    ingestion.feedReader recorder reader =
      if ingestion.isFull then (none, ingestion.stop, recorder)
      else (ingestion.feed recorder line).1.feedReader (ingestion.feed recorder line).2 after := by
  rw [feedReader]
  split
  · next h' => cases h.symm.trans h'
  · next h' => cases h.symm.trans h'
  · next h' =>
    cases h.symm.trans h'
    rfl

theorem feedReader_eq_feedAll (ingestion : Ingestion) (recorder : σ) (reader : LineReader) :
    (ingestion.feedReader recorder reader).2 = ingestion.feedAll recorder reader.readAll.1 := by
  induction reader using LineReader.readAll.induct generalizing ingestion recorder with
  | case1 reader error hnext =>
    rw [feedReader_of_error hnext, LineReader.readAll_of_error hnext]
    rfl
  | case2 reader hnext =>
    rw [feedReader_of_end hnext, LineReader.readAll_of_end hnext]
    rfl
  | case3 reader line after hnext lines error hread ih =>
    rw [feedReader_of_line hnext, LineReader.readAll_of_line hnext, feedAll]
    cases ingestion.isFull with
    | true => rfl
    | false => exact ih _ _

end Recorders

section Stores

def callOf? (clock : Cycle) (line : String) : Option Store.Call :=
  match TraceLine.parse line with
  | .ok (.clock cycle) => if cycle < clock then none else some (.observe cycle)
  | .ok (.newAccess id kind address) => some (.insert { id, kind, address, start := clock })
  | .ok (.endAccess id) => some (.close id clock)
  | .ok .other => none
  | .error _ => none

theorem feed_store (ingestion : Ingestion) (store : Store) (line : String) :
    (ingestion.feed store line).2 = (callOf? ingestion.clock line).elim store store.perform := by
  simp only [feed, effect, callOf?]
  cases hsaid : TraceLine.parse line with
  | error error => rfl
  | ok said =>
    cases said with
    | clock cycle =>
      simp only [apply]
      split <;> rfl
    | newAccess id kind address =>
      simp only [apply, Option.elim_some, Store.perform, Recorder.insertIfNew]
      split
      · next hinsert => rw [hinsert]
      · next hinsert => rw [hinsert]
    | endAccess id => rfl
    | other => rfl

theorem get?_feed (ingestion : Ingestion) (store : Store) (line : String) (id : AccessId) :
    (ingestion.feed store line).2.get? id =
      accessStep ingestion.clock line id (store.get? id) := by
  obtain ⟨said, hsaid⟩ : ∃ said, TraceLine.parse line = said := ⟨_, rfl⟩
  rw [feed_store]
  simp only [callOf?, accessStep, startOf?, isEndOf, hsaid]
  cases said with
  | error error => cases h : store.get? id <;> simp [h]
  | ok said =>
    cases said with
    | clock cycle =>
      simp only
      split <;> cases h : store.get? id <;> simp [Store.perform, h]
    | newAccess started kind address =>
      simp only [Option.elim_some, Store.perform, Store.get?_insertIfNew]
      cases h : store.get? id with
      | none => by_cases hid : id = started <;> simp [hid]
      | some access => simp
    | endAccess ended =>
      simp only [Option.elim_some, Store.perform, Store.get?_close]
      cases h : store.get? id with
      | none => simp
      | some access => by_cases hid : id = ended <;> simp [hid]
    | other => cases h : store.get? id <;> simp [h]

def Resumes (ingestion : Ingestion) (store : Store) : Prop :=
  ingestion.clock = store.horizon.getD 0

variable {ingestion : Ingestion} {store : Store}

theorem horizon_feed (resumes : ingestion.Resumes store) (line : String) :
    (ingestion.feed store line).2.horizon = horizonStep store.horizon line := by
  rw [feed_store]
  simp only [callOf?, horizonStep, cycleOf?]
  cases TraceLine.parse line with
  | error error => rfl
  | ok said =>
    cases said with
    | clock cycle =>
      simp only
      split
      · next back =>
        -- A clock that goes back has a horizon to go back from.
        rw [resumes] at back
        cases hz : store.horizon with
        | none => rw [hz] at back; exact absurd back (UInt64.not_lt.mpr (UInt64.zero_le))
        | some latest =>
          rw [hz] at back
          simpa [hz] using (max_of_ge (UInt64.le_of_lt back)).symm
      · next forth =>
        simp only [Option.elim_some, Store.perform, Store.observe]
        cases hz : store.horizon with
        | none => simp [max_of_le]
        | some latest => rfl
    | newAccess id kind address => exact Store.horizon_insertIfNew store _
    | endAccess id => exact Store.horizon_close store id _
    | other => rfl

theorem Resumes.feed (resumes : ingestion.Resumes store) (line : String) :
    (ingestion.feed store line).1.Resumes (ingestion.feed store line).2 := by
  rw [Resumes, feed_clock, horizon_feed resumes, resumes, clockStep_getD]

theorem reachable_feed (reachable : store.Reachable) (line : String) :
    (ingestion.feed store line).2.Reachable := by
  rw [feed_store]
  cases callOf? ingestion.clock line with
  | none => exact reachable
  | some call => exact reachable.perform call

theorem feedLines_keeps {P : Ingestion → Store → Prop}
    (step : ∀ i s line, P i s → P (i.feed s line).1 (i.feed s line).2)
    (start : P ingestion store) (lines : List String) :
    P (ingestion.feedLines store lines).1 (ingestion.feedLines store lines).2 := by
  induction lines generalizing ingestion store with
  | nil => exact start
  | cons line rest ih => exact ih (step _ _ line start)

theorem reachable_feedLines (reachable : store.Reachable) (lines : List String) :
    (ingestion.feedLines store lines).2.Reachable :=
  feedLines_keeps (P := fun _ store => store.Reachable)
    (fun _ _ line reachable => reachable_feed reachable line) reachable lines

theorem obeys_feed {P : Cycle → Access → Prop} (law : TimelyLaw P)
    (resumes : ingestion.Resumes store) (obeys : store.Obeys P) (line : String) :
    (ingestion.feed store line).2.Obeys P := by
  intro a ha
  have later := le_clockStep ingestion.clock line
  rw [← feed_clock ingestion store, resumes.feed line] at later
  refine law.later later ?_
  have hget := Store.get?_of_mem ha
  rw [get?_feed] at hget
  cases hold : store.get? a.id with
  | none =>
    rw [hold] at hget
    obtain ⟨⟨kind, address⟩, -, new⟩ := Option.map_eq_some_iff.mp hget
    exact new ▸ law.started ..
  | some old =>
    have hP : P ingestion.clock old := resumes ▸ obeys old (Store.get?_eq_some_iff.mp hold).1
    simp only [accessStep, hold, Option.some.injEq] at hget
    rw [← hget]
    split
    · exact law.ended hP
    · exact hP

end Stores

end Ingestion

theorem Session.resumes (session : Session) : session.ingestion.Resumes session.store := rfl

def Session.plainly (store : Store) : Session where
  store := store
  config := {}
  period := ⟨1, 0⟩
  valid := rfl

/-- One access is open, and the clock stands at 20. -/
def Session.resumed : Session :=
  plainly (Store.performAll .empty [.insert ⟨⟨1⟩, .load, 0x10, 7, none⟩, .observe 20])

end AccessTrace
