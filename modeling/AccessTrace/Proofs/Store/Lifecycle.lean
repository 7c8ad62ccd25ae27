import AccessTrace.Proofs.Store.Indices

/-! What becomes of the access of an id while calls are performed, and what the answers to them
tell. An id is absent, then it has an open access, then a closed one. It may skip the open one, and
it never goes back. -/

namespace AccessTrace

inductive Access.Moves : Option Access → Option Access → Prop where
  | stays (known : Option Access) : Moves known known
  | startsOpen {access : Access} (isOpen : access.isOpen = true) : Moves none (some access)
  | startsClosed {access : Access} (isOpen : access.isOpen = false) : Moves none (some access)
  | ends {access : Access} (isOpen : access.isOpen = true) (cycle : Cycle) :
      Moves (some access) (some (access.close cycle))

namespace Access

theorem moves_starts (access : Access) : Moves none (some access) := by
  cases isOpen : access.isOpen with
  | false => exact .startsClosed isOpen
  | true => exact .startsOpen isOpen

theorem moves_endedBy (access : Access) (cycle : Cycle) :
    Moves (some access) (some (access.endedBy (some cycle))) := by
  cases isOpen : access.isOpen with
  | false =>
    rw [endedBy_of_closed isOpen]
    exact .stays (some access)
  | true =>
    rw [endedBy_of_open isOpen]
    exact .ends isOpen cycle

end Access

namespace Store

variable {store : Store} {id : AccessId} {calls : List Call}

def Call.insertsAs (id : AccessId) : Call → Bool
  | .insert access => access.id = id
  | .close .. | .observe _ => false

def Call.closing? (id : AccessId) : Call → Option Cycle
  | .close closed cycle => if closed = id then some cycle else none
  | .insert _ | .observe _ => none

section Calls

theorem moves_perform (store : Store) (call : Call) (id : AccessId) :
    Access.Moves (store.get? id) ((store.perform call).get? id) := by
  cases call with
  | insert access =>
    rw [perform, get?_insertIfNew]
    split
    · cases store.get? id with
      | none => exact access.moves_starts
      | some old => exact .stays (some old)
    · exact .stays _
  | close closed cycle =>
    rw [perform, get?_close]
    split
    · cases store.get? id with
      | none => exact .stays none
      | some old => exact old.moves_endedBy cycle
    · exact .stays _
  | observe cycle => exact .stays _

theorem get?_perform_of_some {a : Access} (known : store.get? id = some a) (call : Call) :
    (store.perform call).get? id = some (a.endedBy (call.closing? id)) := by
  cases call with
  | insert access =>
    rw [perform, get?_insertIfNew, known, Call.closing?, Access.endedBy_none]
    split <;> rfl
  | close closed cycle =>
    rw [perform, get?_close, known, Call.closing?]
    by_cases same : closed = id
    · rw [if_pos same.symm, if_pos same, Option.map_some]
    · rw [if_neg (Ne.symm same), if_neg same, Access.endedBy_none]
  | observe cycle => rw [perform, get?_observe, known, Call.closing?, Access.endedBy_none]

theorem get?_perform_of_none (absent : store.get? id = none) {call : Call}
    (other : call.insertsAs id = false) : (store.perform call).get? id = none := by
  cases call with
  | insert access =>
    have apart : id ≠ access.id := by
      rintro rfl
      simp [Call.insertsAs] at other
    rw [perform, get?_insertIfNew, if_neg apart, absent]
  | close closed cycle =>
    rw [perform, get?_close, absent]
    split <;> rfl
  | observe cycle => exact absent

theorem get?_perform_insert {a : Access} (absent : store.get? a.id = none) :
    (store.perform (.insert a)).get? a.id = some a := by
  rw [perform, get?_insertIfNew, if_pos rfl, absent, Option.getD_none]

theorem horizon_perform (store : Store) (call : Call) {earlier : Cycle}
    (known : store.horizon = some earlier) :
    ∃ later, (store.perform call).horizon = some later ∧ earlier ≤ later := by
  cases call with
  | insert access => exact ⟨earlier, (horizon_insertIfNew ..).trans known, UInt64.le_refl _⟩
  | close closed cycle => exact ⟨earlier, (horizon_close ..).trans known, UInt64.le_refl _⟩
  | observe cycle =>
    refine ⟨max earlier cycle, ?_, Std.left_le_max⟩
    simp only [perform, observe, known]

end Calls

section Runs

theorem performAll_append (store : Store) (first second : List Call) :
    store.performAll (first ++ second) = (store.performAll first).performAll second :=
  List.foldl_append

theorem get?_performAll_of_some {a : Access} (known : store.get? id = some a) (calls : List Call) :
    (store.performAll calls).get? id = some (a.endedBy (calls.findSome? (Call.closing? id))) := by
  induction calls generalizing store a with
  | nil => exact known.trans (congrArg some (Access.endedBy_none a).symm)
  | cons call rest ih =>
    have after := ih (get?_perform_of_some known call)
    rw [Access.endedBy_endedBy] at after
    refine after.trans ?_
    rw [List.findSome?_cons]
    cases call.closing? id with
    | none => rw [Option.none_or]
    | some cycle => rw [Option.some_or]

theorem get?_performAll_of_none (absent : store.get? id = none)
    (others : ∀ call ∈ calls, call.insertsAs id = false) :
    (store.performAll calls).get? id = none := by
  induction calls generalizing store with
  | nil => exact absent
  | cons call rest ih =>
    obtain ⟨other, others⟩ := List.forall_mem_cons.mp others
    exact ih (get?_perform_of_none absent other) others

theorem horizon_performAll (store : Store) (calls : List Call) {earlier : Cycle}
    (known : store.horizon = some earlier) :
    ∃ later, (store.performAll calls).horizon = some later ∧ earlier ≤ later := by
  induction calls generalizing store earlier with
  | nil => exact ⟨earlier, known, UInt64.le_refl _⟩
  | cons call rest ih =>
    obtain ⟨between, known, le⟩ := horizon_perform store call known
    obtain ⟨later, known, le'⟩ := ih (store.perform call) known
    exact ⟨later, known, UInt64.le_trans le le'⟩

end Runs

/-- What becomes of the access of an id by calls, from what it was before to what it is after. -/
structure Lives (id : AccessId) (calls : List Call) (before after : Option Access) : Prop where
  /-- All that may change of an access is its end, which the first call to close it gives. -/
  kept (a : Access) : before = some a →
    after = some (a.endedBy (calls.findSome? (Call.closing? id)))
  added (first behind : List Call) (a : Access) : before = none →
    calls = first ++ .insert a :: behind → a.id = id →
    (∀ call ∈ first, call.insertsAs id = false) →
    after = some (a.endedBy (behind.findSome? (Call.closing? id)))
  absent : before = none → (∀ call ∈ calls, call.insertsAs id = false) → after = none

theorem lives_performAll (store : Store) (calls : List Call) (id : AccessId) :
    Lives id calls (store.get? id) ((store.performAll calls).get? id) where
  kept _ known := get?_performAll_of_some known calls
  added first behind a absent parted same others := by
    subst parted same
    have before := get?_performAll_of_none absent others
    rw [performAll_append]
    exact get?_performAll_of_some (get?_perform_insert before) behind
  absent := get?_performAll_of_none

theorem close_fst (store : Store) (id : AccessId) (cycle : Cycle) :
    (store.close id cycle).1 = match store.get? id with
      | none => .unknown
      | some a => if a.isOpen then .closed else .alreadyClosed := by
  cases known : store.get? id with
  | none => rw [close_of_unknown known]
  | some a =>
    cases isOpen : a.isOpen with
    | false => simp [close_of_closed known isOpen, isOpen]
    | true => simp [close_of_open known isOpen, isOpen]

/-- What the answers of a store tell of the access of an id. A call that is turned down changes
nothing. -/
structure Answers (store : Store) : Prop where
  added (access : Access) : (store.insertIfNew access).1 = true ↔ store.get? access.id = none
  closed (id : AccessId) (cycle : Cycle) :
    (store.close id cycle).1 = .closed ↔ ∃ a, store.get? id = some a ∧ a.isOpen = true
  alreadyClosed (id : AccessId) (cycle : Cycle) :
    (store.close id cycle).1 = .alreadyClosed ↔ ∃ a, store.get? id = some a ∧ a.isOpen = false
  unknown (id : AccessId) (cycle : Cycle) :
    (store.close id cycle).1 = .unknown ↔ store.get? id = none
  not_added (access : Access) :
    (store.insertIfNew access).1 = false → (store.insertIfNew access).2 = store
  not_closed (id : AccessId) (cycle : Cycle) :
    (store.close id cycle).1 ≠ .closed → (store.close id cycle).2 = store

theorem answers (store : Store) : store.Answers where
  added access := by
    cases known : store.get? access.id with
    | none => simp [insertIfNew_of_new known]
    | some old => simp [insertIfNew_of_taken known]
  closed id cycle := by
    rw [close_fst]
    cases store.get? id with
    | none => simp
    | some a => cases isOpen : a.isOpen <;> simp [isOpen]
  alreadyClosed id cycle := by
    rw [close_fst]
    cases store.get? id with
    | none => simp
    | some a => cases isOpen : a.isOpen <;> simp [isOpen]
  unknown id cycle := by
    rw [close_fst]
    cases store.get? id with
    | none => simp
    | some a => cases isOpen : a.isOpen <;> simp [isOpen]
  not_added access refused := by
    cases known : store.get? access.id with
    | none => simp [insertIfNew_of_new known] at refused
    | some old => rw [insertIfNew_of_taken known]
  not_closed id cycle refused := by
    cases known : store.get? id with
    | none => rw [close_of_unknown known]
    | some a =>
      cases isOpen : a.isOpen with
      | false => rw [close_of_closed known isOpen]
      | true => simp [close_of_open known isOpen] at refused

/-- Along a run of calls every answer tells what the store holds, every call moves the access of an
id from absent to open to closed or leaves it, what it becomes is told by the calls alone, and the
horizon does not go back. -/
theorem lifecycle_of_performAll (store : Store) (calls : List Call) :
    (store.performAll calls).Answers ∧
      (∀ id call, Access.Moves ((store.performAll calls).get? id)
        ((store.performAll (calls ++ [call])).get? id)) ∧
      (∀ id, Lives id calls (store.get? id) ((store.performAll calls).get? id)) ∧
      ∀ earlier, store.horizon = some earlier →
        ∃ later, (store.performAll calls).horizon = some later ∧ earlier ≤ later := by
  refine ⟨answers _, ?_, lives_performAll store calls, ?_⟩
  · intro id call
    rw [performAll_append]
    exact moves_perform (store.performAll calls) call id
  · intro earlier known
    exact horizon_performAll store calls known

/-- An access that starts again, ends before it starts, and ends again later. -/
example :
    let calls : List Call := [.close ⟨1⟩ 3, .insert ⟨⟨1⟩, .load, 16, 5, none⟩, .close ⟨1⟩ 4,
      .insert ⟨⟨1⟩, .store, 32, 6, some 9⟩, .close ⟨1⟩ 8]
    (performAll .empty calls).toList = [⟨⟨1⟩, .load, 16, 5, some 4⟩] := by
  decide

end Store

end AccessTrace
