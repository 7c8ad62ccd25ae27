import AccessTrace.Proofs.Ordered
import AccessTrace.Store.Basic

namespace AccessTrace

def Access.endedBy (access : Access) (stop : Option Cycle) : Access :=
  { access with stop := access.stop.or stop }

@[simp] theorem Access.endedBy_none (access : Access) : access.endedBy none = access := by
  cases access
  simp [endedBy]

theorem Access.endedBy_of_open {access : Access} (h : access.isOpen) (cycle : Cycle) :
    access.endedBy (some cycle) = access.close cycle := by
  rw [endedBy, Option.isNone_iff_eq_none.mp h]
  rfl

theorem Access.endedBy_of_closed {access : Access} (h : access.isOpen = false)
    (stop : Option Cycle) : access.endedBy stop = access := by
  cases access with
  | mk id kind address start last =>
    cases last with
    | none => cases h
    | some last => rfl

theorem Access.endedBy_endedBy (access : Access) (stop later : Option Cycle) :
    (access.endedBy stop).endedBy later = access.endedBy (stop.or later) := by
  simp [endedBy, Option.or_assoc]

namespace Store

variable {store : Store} {access : Access} {id : AccessId}

theorem get?_eq_some_iff : store.get? id = some access ↔ access ∈ store.accesses ∧ access.id = id :=
  Ordered.find?_eq_some_iff

theorem get?_eq_none_iff : store.get? id = none ↔ ∀ a ∈ store.accesses, a.id ≠ id :=
  Ordered.find?_eq_none_iff

theorem get?_of_mem (h : access ∈ store.accesses) : store.get? access.id = some access :=
  get?_eq_some_iff.mpr ⟨h, rfl⟩

theorem isEmpty_iff : store.isEmpty ↔ ∀ a, a ∉ store.accesses := by
  rw [isEmpty, List.isEmpty_iff, List.eq_nil_iff_forall_not_mem]
  exact Iff.rfl

def add (store : Store) (access : Access) : Store where
  accesses := store.accesses.put access
  byStart := store.byStart.put ⟨access.start, access.id⟩
  byEnd := match access.stop with
    | some last => store.byEnd.put ⟨last, access.id⟩
    | none => store.byEnd
  unended := match access.stop with
    | some _ => store.unended
    | none => store.unended.put access.id
  addresses := some <| match store.addresses with
    | some range => range.extend access.address
    | none => .single access.address
  horizon := store.horizon

def finish (store : Store) (access : Access) (cycle : Cycle) : Store :=
  { store with
    accesses := store.accesses.put (access.close cycle)
    byEnd := store.byEnd.put ⟨cycle, access.id⟩
    unended := store.unended.erase access.id }

theorem insertIfNew_of_taken {old : Access} (h : store.get? access.id = some old) :
    store.insertIfNew access = (false, store) := by
  simp only [insertIfNew, h]

theorem insertIfNew_of_new (h : store.get? access.id = none) :
    store.insertIfNew access = (true, store.add access) := by
  obtain ⟨id, kind, address, start, stop⟩ := access
  rw [insertIfNew, h]
  cases stop with
  | none => rfl
  | some last => rfl

theorem close_of_unknown (h : store.get? id = none) (cycle : Cycle) :
    store.close id cycle = (.unknown, store) := by
  simp only [close, h]

theorem close_of_closed (h : store.get? id = some access) (closed : access.isOpen = false)
    (cycle : Cycle) : store.close id cycle = (.alreadyClosed, store) := by
  simp [close, h, closed]

theorem close_of_open (h : store.get? id = some access) (opened : access.isOpen) (cycle : Cycle) :
    store.close id cycle = (.closed, store.finish access cycle) := by
  obtain ⟨-, rfl⟩ := get?_eq_some_iff.mp h
  simp [close, finish, h, opened]

theorem get?_insertIfNew (store : Store) (access : Access) (id : AccessId) :
    (store.insertIfNew access).2.get? id =
      if id = access.id then some ((store.get? id).getD access) else store.get? id := by
  cases h : store.get? access.id with
  | some old =>
    rw [insertIfNew_of_taken h]
    split
    · next heq => simp [heq, h]
    · rfl
  | none =>
    rw [insertIfNew_of_new h]
    refine Ordered.find?_put.trans ?_
    split
    · next heq => simp [heq, h]
    · rfl

theorem get?_close (store : Store) (closing : AccessId) (cycle : Cycle) (id : AccessId) :
    (store.close closing cycle).2.get? id =
      if id = closing then (store.get? id).map (·.endedBy (some cycle)) else store.get? id := by
  cases h : store.get? closing with
  | none =>
    rw [close_of_unknown h]
    split
    · next heq => simp [heq, h]
    · rfl
  | some access =>
    cases hopen : access.isOpen with
    | false =>
      rw [close_of_closed h hopen]
      split
      · next heq => simp [heq, h, Access.endedBy_of_closed hopen]
      · rfl
    | true =>
      obtain ⟨-, rfl⟩ := get?_eq_some_iff.mp h
      rw [close_of_open h hopen]
      refine Ordered.find?_put.trans ?_
      split
      · next heq => simp [heq, Access.close, h, Access.endedBy_of_open hopen]
      · next heq => exact (if_neg heq).symm

@[simp] theorem get?_observe (store : Store) (cycle : Cycle) (id : AccessId) :
    (store.observe cycle).get? id = store.get? id := rfl

@[simp] theorem horizon_insertIfNew (store : Store) (access : Access) :
    (store.insertIfNew access).2.horizon = store.horizon := by
  cases h : store.get? access.id with
  | some old => rw [insertIfNew_of_taken h]
  | none => rw [insertIfNew_of_new h]; rfl

@[simp] theorem horizon_close (store : Store) (id : AccessId) (cycle : Cycle) :
    (store.close id cycle).2.horizon = store.horizon := by
  cases h : store.get? id with
  | none => rw [close_of_unknown h]
  | some access =>
    cases hopen : access.isOpen with
    | false => rw [close_of_closed h hopen]
    | true => rw [close_of_open h hopen]; rfl

end Store

end AccessTrace
