import AccessTrace.Proofs.Ingest.Ledger
import AccessTrace.Proofs.Ingest.Reading
import AccessTrace.Proofs.Store.Lifecycle

/-! A trace that is ingested again. The second time it does no more than end accesses whose ends it
tells only before their starts, and from the third time on it does nothing. -/

namespace AccessTrace

theorem Access.isOpen_endedBy_some (access : Access) (cycle : Cycle) :
    (access.endedBy (some cycle)).isOpen = false := by
  cases stop : access.stop <;> simp [endedBy, isOpen, stop]

theorem le_horizonAfter {horizon : Option Cycle} {lines : List String} {cycle : Cycle}
    (told : cycle ∈ cyclesOf lines) :
    ∃ latest, horizonAfter horizon lines = some latest ∧ cycle ≤ latest := by
  have member : cycle ∈ horizon.toList ++ cyclesOf lines := List.mem_append_right _ told
  cases last : horizonAfter horizon lines with
  | none =>
    rw [horizonAfter, List.max?_eq_none_iff] at last
    rw [last] at member
    cases member
  | some latest => exact ⟨latest, rfl, (List.max?_eq_some_iff.mp last).2 cycle member⟩

namespace Store

variable {store : Store}

def closings (cycle : Cycle) (ids : List AccessId) : List Call := ids.map (.close · cycle)

theorem horizon_closings (store : Store) (cycle : Cycle) (ids : List AccessId) :
    (store.performAll (closings cycle ids)).horizon = store.horizon := by
  induction ids generalizing store with
  | nil => rfl
  | cons id rest ih => exact (ih _).trans (horizon_close store id cycle)

theorem get?_closings (store : Store) (cycle : Cycle) (ids : List AccessId) (id : AccessId) :
    (store.performAll (closings cycle ids)).get? id =
      (store.get? id).map (·.endedBy (if id ∈ ids then some cycle else none)) := by
  induction ids generalizing store with
  | nil => simp [closings, performAll]
  | cons closed rest ih =>
    have step : store.performAll (closings cycle (closed :: rest)) =
        (store.close closed cycle).2.performAll (closings cycle rest) := rfl
    rw [step, ih, get?_close]
    by_cases same : id = closed
    · subst same
      cases store.get? id <;> simp [Access.endedBy_endedBy]
    · simp [same]

def HasEnded (store : Store) (ids : List AccessId) : Prop :=
  ∀ id ∈ ids, ∀ a, store.get? id = some a → a.isOpen = false

theorem HasEnded.performAll_closings {ids : List AccessId} (ended : store.HasEnded ids)
    (cycle : Cycle) : store.performAll (closings cycle ids) = store := by
  induction ids with
  | nil => rfl
  | cons id rest ih =>
    obtain ⟨first, later⟩ := List.forall_mem_cons.mp ended
    have stays : store.perform (.close id cycle) = store := by
      cases known : store.get? id with
      | none => rw [perform, close_of_unknown known]
      | some a => rw [perform, close_of_closed known (first a known)]
    have step : store.performAll (closings cycle (id :: rest)) =
        (store.perform (.close id cycle)).performAll (closings cycle rest) := rfl
    rw [step, stays]
    exact ih later

theorem hasEnded_closings (store : Store) (cycle : Cycle) (ids : List AccessId) :
    (store.performAll (closings cycle ids)).HasEnded ids := by
  intro id member a known
  rw [get?_closings, if_pos member] at known
  obtain ⟨old, -, rfl⟩ := Option.map_eq_some_iff.mp known
  exact old.isOpen_endedBy_some cycle

theorem observe_of_le {latest cycle : Cycle} (known : store.horizon = some latest)
    (le : cycle ≤ latest) : store.observe cycle = store := by
  have same : some (max latest cycle) = store.horizon := by rw [max_of_ge le, known]
  simp only [observe, known]
  rw [same]

/-- A store recalls a line if it knows of the cycle that the line tells and of the start that it
tells. -/
structure Recalls (store : Store) (line : String) : Prop where
  cycle (c : Cycle) : cycleOf? line = some c → ∃ latest, store.horizon = some latest ∧ c ≤ latest
  start (id : AccessId) : started? line = some id → (store.get? id).isSome = true

theorem Recalls.closings {line : String} (recalls : store.Recalls line) (cycle : Cycle)
    (ids : List AccessId) : (store.performAll (closings cycle ids)).Recalls line where
  cycle c told := by
    rw [horizon_closings]
    exact recalls.cycle c told
  start id told := by
    rw [get?_closings, Option.isSome_map]
    exact recalls.start id told

end Store

namespace Ingestion

variable {ingestion : Ingestion} {store : Store} {lines : List String}

theorem feed_of_recalls (ingestion : Ingestion) {line : String} (recalls : store.Recalls line) :
    (ingestion.feed store line).2 =
      store.performAll (Store.closings ingestion.clock (ended? line).toList) := by
  obtain ⟨known_cycle, known_start⟩ := recalls
  simp only [cycleOf?, started?] at known_cycle known_start
  rw [feed_store]
  simp only [callOf?, ended?]
  cases parsed : TraceLine.parse line with
  | error error => rfl
  | ok said =>
    simp only [parsed] at known_cycle known_start
    cases said with
    | clock cycle =>
      obtain ⟨latest, horizon, le⟩ := known_cycle cycle rfl
      simp only
      split
      · rfl
      · exact Store.observe_of_le horizon le
    | newAccess id kind address =>
      obtain ⟨old, known⟩ := Option.isSome_iff_exists.mp (known_start id rfl)
      have taken :
          store.get? ({ id, kind, address, start := ingestion.clock } : Access).id = some old :=
        known
      simp only [Option.elim_some, Store.perform, Store.insertIfNew_of_taken taken]
      rfl
    | endAccess id => rfl
    | other => rfl

theorem clockStep_of_recalls (resumes : ingestion.Resumes store) {line : String}
    (recalls : store.Recalls line) : clockStep ingestion.clock line = ingestion.clock := by
  unfold clockStep
  cases told : cycleOf? line with
  | none => rfl
  | some cycle =>
    obtain ⟨latest, horizon, le⟩ := recalls.cycle cycle told
    have clock : ingestion.clock = latest := by rw [resumes, horizon, Option.getD_some]
    exact max_of_ge (clock ▸ le)

theorem feedLines_of_recalls (resumes : ingestion.Resumes store)
    (recalls : ∀ line ∈ lines, store.Recalls line) :
    (ingestion.feedLines store lines).2 =
      store.performAll (Store.closings ingestion.clock (endsOf lines)) := by
  induction lines generalizing ingestion store with
  | nil => rfl
  | cons line rest ih =>
    obtain ⟨first, later⟩ := List.forall_mem_cons.mp recalls
    have fed := feed_of_recalls ingestion first
    have clock : (ingestion.feed store line).1.clock = ingestion.clock := by
      rw [feed_clock, clockStep_of_recalls resumes first]
    have later : ∀ other ∈ rest, (ingestion.feed store line).2.Recalls other := by
      intro other member
      rw [fed]
      exact (later other member).closings _ _
    rw [feedLines_cons, ih (resumes.feed line) later, clock, fed, ← Store.performAll_append,
      endsOf_cons, Store.closings, Store.closings, Store.closings, List.map_append]

theorem recalls_feedLines (resumes : ingestion.Resumes store) (lines : List String) :
    ∀ line ∈ lines, (ingestion.feedLines store lines).2.Recalls line := by
  intro line member
  constructor
  · intro cycle told
    rw [horizon_feedLines resumes]
    exact le_horizonAfter (List.mem_filterMap.mpr ⟨line, member, told⟩)
  · intro id told
    exact (isSome_get?_feedLines ingestion store lines id).mpr
      (.inr (List.mem_filterMap.mpr ⟨line, member, told⟩))

theorem get?_feedLines_of_closed {id : AccessId} {a : Access} (known : store.get? id = some a)
    (closed : a.isOpen = false) (lines : List String) :
    (ingestion.feedLines store lines).2.get? id = some a := by
  apply feedLines_keeps (P := fun _ store => store.get? id = some a) _ known
  intro ingestion store line known
  rw [get?_feed, known, accessStep, Access.endedBy_of_closed closed, ite_self]

end Ingestion

/-- Each end among the lines is that of an access that the store has or that an earlier line
starts. -/
def EndsFollowStarts (store : Store) (lines : List String) : Prop :=
  ∀ i, ∀ inside : i < lines.length, ∀ id ∈ ended? lines[i],
    (store.get? id).isSome = true ∨ id ∈ startsOf (lines.take i)

instance (store : Store) (lines : List String) : Decidable (EndsFollowStarts store lines) :=
  inferInstanceAs (Decidable (∀ i, ∀ inside : i < lines.length, ∀ id ∈ ended? lines[i],
    (store.get? id).isSome = true ∨ id ∈ startsOf (lines.take i)))

theorem hasEnded_feedLines {ingestion : Ingestion} {store : Store} {lines : List String}
    (follow : EndsFollowStarts store lines) :
    (ingestion.feedLines store lines).2.HasEnded (endsOf lines) := by
  intro id member a known
  obtain ⟨line, among, told⟩ := List.mem_filterMap.mp member
  obtain ⟨i, inside, rfl⟩ := List.getElem_of_mem among
  have started := (Ingestion.isSome_get?_feedLines ingestion store (lines.take i) id).mpr
    (follow i inside id told)
  obtain ⟨old, before⟩ := Option.isSome_iff_exists.mp started
  -- The line ends the access, and those behind it leave it so.
  have parts : lines = lines.take i ++ lines[i] :: lines.drop (i + 1) := by
    rw [← List.drop_eq_getElem_cons inside, List.take_append_drop]
  rw [parts, Ingestion.feedLines_append, Ingestion.feedLines_cons] at known
  generalize ingestion.feedLines store (lines.take i) = reached at known before
  have ended : (reached.1.feed reached.2 lines[i]).2.get? id =
      some (old.endedBy (some reached.1.clock)) := by
    rw [Ingestion.get?_feed, before, accessStep, if_pos ((isEndOf_iff id _).mpr told)]
  rw [Ingestion.get?_feedLines_of_closed ended (old.isOpen_endedBy_some _)] at known
  cases known
  exact old.isOpen_endedBy_some _

/-- The second time lines only end accesses, at the horizon: those of which they tell an end and
that are still open. -/
structure OnlyEnds (lines : List String) (once twice : Store) : Prop where
  calls : twice = once.performAll (Store.closings (once.horizon.getD 0) (endsOf lines))
  horizon : twice.horizon = once.horizon
  absent (id : AccessId) : twice.get? id = none ↔ once.get? id = none
  closed (a : Access) : once.get? a.id = some a → a.isOpen = false → twice.get? a.id = some a
  ended (a : Access) : once.get? a.id = some a → a.isOpen = true → a.id ∈ endsOf lines →
    twice.get? a.id = some (a.close (once.horizon.getD 0))
  unended (a : Access) : once.get? a.id = some a → a.isOpen = true → a.id ∉ endsOf lines →
    twice.get? a.id = some a

theorem onlyEnds_closings (lines : List String) (store : Store) :
    OnlyEnds lines store
      (store.performAll (Store.closings (store.horizon.getD 0) (endsOf lines))) where
  calls := rfl
  horizon := store.horizon_closings _ _
  absent id := by rw [Store.get?_closings, Option.map_eq_none_iff]
  closed a known closed := by
    rw [Store.get?_closings, known, Option.map_some, Access.endedBy_of_closed closed]
  ended a known isOpen member := by
    rw [Store.get?_closings, known, Option.map_some, if_pos member,
      Access.endedBy_of_open isOpen]
  unended a known _ other := by
    rw [Store.get?_closings, known, Option.map_some, if_neg other, Access.endedBy_none]

namespace Session

variable {session : Session}

theorem store_ingest (session : Session) (unlimited : session.config.maxLines = none)
    (lines : List String) :
    (session.ingest lines).2.store =
      (session.ingestion.feedLines session.store lines).2 := by
  rw [ingest_of_unlimited unlimited]

theorem store_ingest_of_recalls (session : Session) (unlimited : session.config.maxLines = none)
    {lines : List String} (recalls : ∀ line ∈ lines, session.store.Recalls line) :
    (session.ingest lines).2.store = session.store.performAll
      (Store.closings (session.store.horizon.getD 0) (endsOf lines)) := by
  rw [store_ingest session unlimited, Ingestion.feedLines_of_recalls session.resumes recalls]
  rfl

/-- Lines that are ingested a second time only end accesses, and the third time they do nothing. If
each end among them follows its start, they do nothing the second time already. -/
theorem ingest_again (unlimited : session.config.maxLines = none) (lines : List String) :
    let once := (session.ingest lines).2
    let twice := (once.ingest lines).2
    OnlyEnds lines once.store twice.store ∧ (twice.ingest lines).2.store = twice.store ∧
      (EndsFollowStarts session.store lines → twice.store = once.store) := by
  intro once twice
  have first : once.store = (session.ingestion.feedLines session.store lines).2 :=
    store_ingest session unlimited lines
  have recalls : ∀ line ∈ lines, once.store.Recalls line := by
    rw [first]
    exact Ingestion.recalls_feedLines session.resumes lines
  have second : twice.store =
      once.store.performAll (Store.closings (once.store.horizon.getD 0) (endsOf lines)) :=
    store_ingest_of_recalls once unlimited recalls
  have recalls_still : ∀ line ∈ lines, twice.store.Recalls line := by
    intro line member
    rw [second]
    exact (recalls line member).closings _ _
  have third : (twice.ingest lines).2.store =
      twice.store.performAll (Store.closings (twice.store.horizon.getD 0) (endsOf lines)) :=
    store_ingest_of_recalls twice unlimited recalls_still
  have ended : twice.store.HasEnded (endsOf lines) := by
    rw [second]
    exact Store.hasEnded_closings _ _ _
  refine ⟨?_, ?_, ?_⟩
  · rw [second]
    exact onlyEnds_closings lines once.store
  · rw [third]
    exact ended.performAll_closings _
  · intro follow
    have ended_once : once.store.HasEnded (endsOf lines) := by
      rw [first]
      exact hasEnded_feedLines follow
    rw [second]
    exact ended_once.performAll_closings _

/-- The end of access two comes before its start, and access three has none. -/
def looseEnds : List String :=
  ["end_access name=A-2", "clk 10", "new_access name=A-2 type=store addr=0x40", "clk=x",
    "end_access name=A-1", "new_access name=A-3 type=load addr=8", "clk 5",
    "new_access name=A-1 type=load addr=1", "clk 40"]

def tidyEnds : List String :=
  ["clk 30", "end_access name=A-1", "new_access name=A-2 type=load addr=8", "end_access name=A-2",
    "clk 35"]

theorem ingest_again_looseEnds :
    resumed.config.maxLines = none ∧
      (resumed.ingest looseEnds).2.store.toList =
        [⟨⟨1⟩, .load, 0x10, 7, some 20⟩, ⟨⟨2⟩, .store, 0x40, 20, none⟩,
          ⟨⟨3⟩, .load, 8, 20, none⟩] ∧
      ((resumed.ingest looseEnds).2.ingest looseEnds).2.store.toList =
        [⟨⟨1⟩, .load, 0x10, 7, some 20⟩, ⟨⟨2⟩, .store, 0x40, 20, some 40⟩,
          ⟨⟨3⟩, .load, 8, 20, none⟩] ∧
      EndsFollowStarts resumed.store tidyEnds ∧
      ((resumed.ingest tidyEnds).2.ingest tidyEnds).2.store = (resumed.ingest tidyEnds).2.store := by
  have loose := (@ingest_again resumed rfl looseEnds).1
  have tidy := (@ingest_again resumed rfl tidyEnds).2.2
  have follow : EndsFollowStarts resumed.store tidyEnds := by decide +kernel
  refine ⟨rfl, by decide +kernel, ?_, follow, tidy follow⟩
  rw [loose.calls]
  decide +kernel

end Session

end AccessTrace
