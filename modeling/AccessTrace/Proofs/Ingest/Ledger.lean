import AccessTrace.Proofs.Ingest.Counts
import Mathlib.Data.List.Dedup

/-! The counts of an ingestion as a ledger: every line is entered once, under what it says, and the
entries for what was added and closed are just what the store has gained. -/

namespace AccessTrace

def started? (line : String) : Option AccessId :=
  match TraceLine.parse line with
  | .ok (.newAccess id _ _) => some id
  | _ => none

def ended? (line : String) : Option AccessId :=
  match TraceLine.parse line with
  | .ok (.endAccess id) => some id
  | _ => none

def isMalformed (line : String) : Bool :=
  match TraceLine.parse line with
  | .error _ => true
  | .ok _ => false

def startsOf (lines : List String) : List AccessId := lines.filterMap started?

def endsOf (lines : List String) : List AccessId := lines.filterMap ended?

@[simp] theorem startsOf_nil : startsOf [] = [] := rfl

@[simp] theorem endsOf_nil : endsOf [] = [] := rfl

theorem startsOf_cons (line : String) (rest : List String) :
    startsOf (line :: rest) = (started? line).toList ++ startsOf rest := by
  cases started : started? line <;> simp [startsOf, started]

theorem endsOf_cons (line : String) (rest : List String) :
    endsOf (line :: rest) = (ended? line).toList ++ endsOf rest := by
  cases ended : ended? line <;> simp [endsOf, ended]

@[simp] theorem startsOf_append (front rest : List String) :
    startsOf (front ++ rest) = startsOf front ++ startsOf rest :=
  List.filterMap_append

@[simp] theorem endsOf_append (front rest : List String) :
    endsOf (front ++ rest) = endsOf front ++ endsOf rest :=
  List.filterMap_append

theorem isSome_startOf? (id : AccessId) (line : String) :
    (startOf? id line).isSome = true ↔ started? line = some id := by
  unfold startOf? started?
  cases TraceLine.parse line with
  | error error => simp
  | ok said =>
    cases said with
    | newAccess started kind address => by_cases same : id = started <;> simp [same, Ne.symm]
    | clock | endAccess | other => simp

theorem isEndOf_iff (id : AccessId) (line : String) :
    isEndOf id line = true ↔ ended? line = some id := by
  unfold isEndOf ended?
  cases TraceLine.parse line with
  | error error => simp
  | ok said =>
    cases said with
    | endAccess ended => simp [eq_comm]
    | clock | newAccess | other => simp

namespace Store

variable {store : Store} {access : Access}

theorem isSome_get?_iff {id : AccessId} :
    (store.get? id).isSome = true ↔ ∃ a ∈ store.accesses, a.id = id := by
  simp only [Option.isSome_iff_exists, get?_eq_some_iff]

theorem size_add (new : store.get? access.id = none) : (store.add access).size = store.size + 1 := by
  have others := get?_eq_none_iff.mp new
  have nodup : (access.id :: store.accesses.toList.map Access.id).Nodup := by
    rw [List.nodup_cons]
    exact ⟨by simpa [Ordered.mem_iff] using others, store.accesses.nodup_keys⟩
  have keys (id : AccessId) : id ∈ access.id :: store.accesses.toList.map Access.id ↔
      ∃ a ∈ (store.add access).accesses, a.id = id := by
    simp only [mem_add new, exists_eq_or_imp, List.mem_cons, List.mem_map]
    exact or_congr_left eq_comm
  rw [size, Ordered.size_eq_length nodup keys, List.length_cons, List.length_map]
  rfl

theorem size_finish (known : access ∈ store.accesses) (cycle : Cycle) :
    (store.finish access cycle).size = store.size := by
  have keys (id : AccessId) : id ∈ store.accesses.toList.map Access.id ↔
      ∃ a ∈ (store.finish access cycle).accesses, a.id = id := by
    simp only [mem_finish, exists_eq_or_imp, List.mem_map]
    constructor
    · rintro ⟨a, member, rfl⟩
      by_cases same : a.id = access.id
      · exact .inl same.symm
      · exact .inr ⟨a, ⟨member, same⟩, rfl⟩
    · rintro (rfl | ⟨a, ⟨member, -⟩, rfl⟩)
      · exact ⟨access, known, rfl⟩
      · exact ⟨a, member, rfl⟩
  rw [size, Ordered.size_eq_length store.accesses.nodup_keys keys, List.length_map]
  rfl

theorem unended_add (indexed : store.Indexed) (new : store.get? access.id = none)
    (isOpen : access.stop = none) :
    (store.add access).unended.size = store.unended.size + 1 := by
  have nodup : (access.id :: store.unended.toList).Nodup := by
    rw [List.nodup_cons]
    refine ⟨fun member => ?_, store.unended.nodup_toList⟩
    obtain ⟨a, known, -, same⟩ := (indexed.unended _).mp member
    exact get?_eq_none_iff.mp new a known same
  have keys (id : AccessId) : id ∈ access.id :: store.unended.toList ↔
      ∃ open_ ∈ (store.add access).unended, open_ = id := by
    simp only [add, isOpen, Ordered.mem_put_self, List.mem_cons, exists_eq_right]
    exact Iff.rfl
  exact Ordered.size_eq_length nodup keys

theorem unended_finish (indexed : store.Indexed) (known : access ∈ store.accesses)
    (isOpen : access.isOpen = true) (cycle : Cycle) :
    (store.finish access cycle).unended.size + 1 = store.unended.size := by
  have member := (indexed.unended access.id).mpr ⟨access, known, isOpen, rfl⟩
  have nodup : (access.id :: (store.unended.erase access.id).toList).Nodup := by
    rw [List.nodup_cons]
    exact ⟨fun erased => (Ordered.mem_erase.mp erased).2 rfl, Ordered.nodup_toList _⟩
  have keys (id : AccessId) : id ∈ access.id :: (store.unended.erase access.id).toList ↔
      ∃ open_ ∈ store.unended, open_ = id := by
    rw [List.mem_cons, ← Ordered.mem_iff, Ordered.mem_erase, exists_eq_right]
    by_cases same : id = access.id
    · simp [same, member]
    · simp [same]
  exact (Ordered.size_eq_length nodup keys).symm

theorem size_insertIfNew (store : Store) (access : Access) :
    (store.insertIfNew access).2.size = store.size + (store.insertIfNew access).1.toNat := by
  cases known : store.get? access.id with
  | none =>
    rw [insertIfNew_of_new known]
    exact size_add known
  | some old =>
    rw [insertIfNew_of_taken known]
    rfl

theorem unended_insertIfNew (indexed : store.Indexed) (access : Access)
    (isOpen : access.stop = none) : (store.insertIfNew access).2.unended.size =
      store.unended.size + (store.insertIfNew access).1.toNat := by
  cases known : store.get? access.id with
  | none =>
    rw [insertIfNew_of_new known]
    exact unended_add indexed known isOpen
  | some old =>
    rw [insertIfNew_of_taken known]
    rfl

theorem size_close (store : Store) (id : AccessId) (cycle : Cycle) :
    (store.close id cycle).2.size = store.size := by
  cases known : store.get? id with
  | none => rw [close_of_unknown known]
  | some access =>
    cases isOpen : access.isOpen with
    | false => rw [close_of_closed known isOpen]
    | true =>
      rw [close_of_open known isOpen]
      exact size_finish (get?_eq_some_iff.mp known).1 cycle

theorem unended_close (indexed : store.Indexed) (id : AccessId) (cycle : Cycle) :
    (store.close id cycle).2.unended.size +
      (if (store.close id cycle).1 = .closed then 1 else 0) = store.unended.size := by
  cases known : store.get? id with
  | none =>
    rw [close_of_unknown known]
    rfl
  | some access =>
    cases isOpen : access.isOpen with
    | false =>
      rw [close_of_closed known isOpen]
      rfl
    | true =>
      rw [close_of_open known isOpen]
      exact unended_finish indexed (get?_eq_some_iff.mp known).1 isOpen cycle

end Store

/-- The counts of lines, and what the store that took them has gained, add up. -/
structure Balances (before : Store) (lines : List String) (counts : Summary) (after : Store) :
    Prop where
  lineCount : counts.lines = lines.length
  malformed : counts.malformed = lines.countP isMalformed
  starts : counts.added + counts.duplicates = (startsOf lines).length
  ends : counts.closed + counts.unknownEnds + counts.repeatedEnds = (endsOf lines).length
  size : after.size = before.size + counts.added
  unended : after.unended.size + counts.closed = before.unended.size + counts.added

theorem Balances.append {before between after : Store} {front rest : List String}
    {first second : Summary} (one : Balances before front first between)
    (two : Balances between rest second after) :
    Balances before (front ++ rest) (first.plus second) after where
  lineCount := by simp [Summary.plus, one.lineCount, two.lineCount]
  malformed := by simp [Summary.plus, one.malformed, two.malformed]
  starts := by
    have := one.starts
    have := two.starts
    simp only [Summary.plus, startsOf_append, List.length_append]
    omega
  ends := by
    have := one.ends
    have := two.ends
    simp only [Summary.plus, endsOf_append, List.length_append]
    omega
  size := by
    rw [two.size, one.size, Nat.add_assoc]
    rfl
  unended := by
    have := one.unended
    have := two.unended
    simp only [Summary.plus]
    omega

namespace Ingestion

variable {ingestion : Ingestion} {store : Store}

theorem balances_feed (indexed : store.Indexed) (fresh : ingestion.summary = {}) (line : String) :
    Balances store [line] (ingestion.feed store line).1.summary (ingestion.feed store line).2 := by
  obtain ⟨said, parsed⟩ : ∃ said, TraceLine.parse line = said := ⟨_, rfl⟩
  have starts := startsOf_cons line []
  have ends := endsOf_cons line []
  have malformed : [line].countP isMalformed = (isMalformed line).toNat := by
    cases bad : isMalformed line <;> simp [bad]
  simp only [started?, ended?, isMalformed, parsed] at starts ends malformed
  simp only [feed, effect, count, fresh, parsed]
  cases said with
  | error error => constructor <;> simp [Summary.countLine, Summary.countEffect, *]
  | ok said =>
    cases said with
    | clock cycle =>
      have observed : (store.observe cycle).size = store.size ∧
          (store.observe cycle).unended = store.unended := ⟨rfl, rfl⟩
      simp only [apply]
      split
      · constructor <;> simp [Summary.countLine, Summary.countEffect, *]
      · constructor <;> simp [Summary.countLine, Summary.countEffect, Recorder.observe, *]
    | newAccess id kind address =>
      let access : Access := { id, kind, address, start := ingestion.clock }
      have size := store.size_insertIfNew access
      have unended := Store.unended_insertIfNew indexed access rfl
      simp only [apply, Recorder.insertIfNew]
      generalize store.insertIfNew access = taken at size unended ⊢
      obtain ⟨isNew, after⟩ := taken
      cases isNew <;> constructor <;> simp_all [Summary.countLine, Summary.countEffect]
    | endAccess id =>
      have size := store.size_close id ingestion.clock
      have unended := Store.unended_close indexed id ingestion.clock
      simp only [apply, Recorder.close]
      generalize store.close id ingestion.clock = taken at size unended ⊢
      obtain ⟨outcome, after⟩ := taken
      cases outcome <;> constructor <;> simp_all [Summary.countLine, Summary.countEffect]
    | other => constructor <;> simp [Summary.countLine, Summary.countEffect, apply, *]

theorem balances_feedLines (ingestion : Ingestion) (fresh : ingestion.summary = {})
    (reachable : store.Reachable) (lines : List String) :
    Balances store lines (ingestion.feedLines store lines).1.summary
      (ingestion.feedLines store lines).2 := by
  induction lines generalizing ingestion store with
  | nil => constructor <;> simp [fresh, startsOf, endsOf]
  | cons line rest ih =>
    have first := balances_feed reachable.indexed fresh line
    -- The rest is counted anew, and the counts of the line are put in front of it.
    obtain ⟨next, from_line⟩ : ∃ next : Ingestion,
        next = { (ingestion.feed store line).1 with summary := {} } := ⟨_, rfl⟩
    have reached : (ingestion.feed store line).2.Reachable := reachable_feed reachable line
    have later := ih next (congrArg Ingestion.summary from_line) reached
    have continued : next.continuing (ingestion.feed store line).1.summary =
        (ingestion.feed store line).1 := by
      subst from_line
      exact continuing_eq rfl rfl rfl
    rw [feedLines_cons, ← continued, feedLines_continuing]
    exact first.append later

theorem isSome_get?_feed (line : String) (id : AccessId) :
    ((ingestion.feed store line).2.get? id).isSome = true ↔
      (store.get? id).isSome = true ∨ started? line = some id := by
  rw [get?_feed, ← isSome_startOf?]
  cases store.get? id <;> simp [accessStep]

theorem isSome_get?_feedLines (ingestion : Ingestion) (store : Store) (lines : List String)
    (id : AccessId) : ((ingestion.feedLines store lines).2.get? id).isSome = true ↔
      (store.get? id).isSome = true ∨ id ∈ startsOf lines := by
  induction lines generalizing ingestion store with
  | nil => simp [startsOf]
  | cons line rest ih =>
    rw [feedLines_cons, ih, isSome_get?_feed, startsOf_cons, List.mem_append, Option.mem_toList,
      or_assoc]

end Ingestion

/-- The ids that lines start accesses of and that the store does not have, each of them once. -/
def newIds (store : Store) (lines : List String) : List AccessId :=
  (startsOf lines).dedup.filter fun id => store.get? id = none

theorem size_feedLines (ingestion : Ingestion) (store : Store) (lines : List String) :
    (ingestion.feedLines store lines).2.size = store.size + (newIds store lines).length := by
  have nodup : (store.toList.map Access.id ++ newIds store lines).Nodup := by
    rw [List.nodup_append]
    refine ⟨store.accesses.nodup_keys, (List.nodup_dedup _).filter _, ?_⟩
    rintro id old _ new rfl
    obtain ⟨a, known, rfl⟩ := List.mem_map.mp old
    have absent := (List.mem_filter.mp new).2
    rw [decide_eq_true_eq, Store.get?_of_mem known] at absent
    cases absent
  have keys (id : AccessId) : id ∈ store.toList.map Access.id ++ newIds store lines ↔
      ∃ a ∈ (ingestion.feedLines store lines).2.accesses, a.id = id := by
    have old : id ∈ store.toList.map Access.id ↔ (store.get? id).isSome = true := by
      rw [Store.isSome_get?_iff, List.mem_map]
      exact Iff.rfl
    rw [← Store.isSome_get?_iff, Ingestion.isSome_get?_feedLines, List.mem_append, old, newIds,
      List.mem_filter, List.mem_dedup]
    cases store.get? id <;> simp
  have counted := Ordered.size_eq_length nodup keys
  rwa [List.length_append, List.length_map] at counted

/-- What an ingestion tells of lines accounts for each of them and for all that the store has
gained. -/
structure Accounts (before : Store) (lines : List String) (counts : Summary) (after : Store) :
    Prop where
  lineCount : counts.lines = lines.length
  malformed : counts.malformed = lines.countP isMalformed
  starts : counts.added + counts.duplicates = (startsOf lines).length
  ends : counts.closed + counts.unknownEnds + counts.repeatedEnds = (endsOf lines).length
  added : counts.added = (newIds before lines).length
  size : after.size = before.size + counts.added
  covered : counts.closed ≤ before.statistics.unended + counts.added
  unended : after.statistics.unended =
    before.statistics.unended + counts.added - counts.closed
  total : after.statistics.total = after.size

/-- Whatever its lines are and whatever the store held before, a fresh ingestion accounts for
them. -/
theorem feedAll_accounts {store : Store} (reachable : store.Reachable) (clock : Cycle)
    (lines : List String) :
    Accounts store lines (({ clock } : Ingestion).feedAll store lines).1.summary
      (({ clock } : Ingestion).feedAll store lines).2 := by
  rw [Ingestion.feedAll_of_unlimited rfl]
  have balances := Ingestion.balances_feedLines { clock } rfl reachable lines
  have gained := size_feedLines { clock } store lines
  have unended := balances.unended
  constructor
  · exact balances.lineCount
  · exact balances.malformed
  · exact balances.starts
  · exact balances.ends
  · rw [balances.size] at gained
    exact Nat.add_left_cancel gained
  · exact balances.size
  · exact Nat.le_of_add_left_le (Nat.le_of_eq unended)
  · exact Nat.eq_sub_of_add_eq unended
  · rfl

def halfEnded : Store :=
  .performAll .empty [.insert ⟨⟨1⟩, .load, 0x10, 7, none⟩, .insert ⟨⟨2⟩, .store, 0x20, 8, some 9⟩,
    .observe 20]

def allSorts : List String :=
  ["clk 30", "end_access name=A-2", "new_access name=A-3 type=load addr=0x30",
    "new_access name=A-3 type=store addr=0x40", "new_access name=A-1 type=load addr=1",
    "end_access name=A-1", "end_access name=A-9", "end_access", "clk 2",
    "new_access name=A-4 type=fetch addr=8", "done"]

theorem feedAll_accounts_allSorts :
    halfEnded.Reachable ∧
      (({ clock := 20 } : Ingestion).feedAll halfEnded allSorts).1.summary =
        ⟨11, 2, 1, 2, 1, 1, 1, false⟩ ∧
      newIds halfEnded allSorts = [⟨3⟩, ⟨4⟩] ∧
      (({ clock := 20 } : Ingestion).feedAll halfEnded allSorts).2.size = 4 ∧
      (({ clock := 20 } : Ingestion).feedAll halfEnded allSorts).2.statistics.unended = 2 := by
  have reachable : halfEnded.Reachable := ⟨_, rfl⟩
  have accounts := feedAll_accounts reachable 20 allSorts
  have counts : (({ clock := 20 } : Ingestion).feedAll halfEnded allSorts).1.summary =
      ⟨11, 2, 1, 2, 1, 1, 1, false⟩ := by
    decide +kernel
  refine ⟨reachable, counts, by decide +kernel, ?_, ?_⟩
  · rw [accounts.size, counts]
    rfl
  · rw [accounts.unended, counts]
    rfl

end AccessTrace
