import AccessTrace.Proofs.Store.Indices
import AccessTrace.Snapshot.Basic

namespace AccessTrace

def Access.Forward (access : Access) : Prop :=
  ∀ last, access.stop = some last → access.start ≤ last

theorem Access.forward_iff {access : Access} :
    access.Forward ↔ access.stop.filter (· < access.start) = none := by
  unfold Forward
  cases access.stop with
  | none => simp
  | some last => simp [Option.filter_some]

instance (access : Access) : Decidable access.Forward :=
  decidable_of_iff _ Access.forward_iff.symm

theorem except_bind_eq_ok {ε α β : Type} {x : Except ε α} {f : α → Except ε β} {b : β} :
    (x >>= f) = .ok b ↔ ∃ a, x = .ok a ∧ f a = .ok b := by
  cases x with
  | error error => exact ⟨fun h => (by cases h), fun ⟨a, h, _⟩ => (by cases h)⟩
  | ok a =>
    constructor
    · intro h
      exact ⟨a, rfl, h⟩
    · rintro ⟨_, ⟨⟩, h⟩
      exact h

namespace Store

def addAll (store : Store) (accesses : List Access) : Store := accesses.foldl add store

def restore (store : Store) : Option Cycle → Store
  | some cycle => store.observe cycle
  | none => store

variable {store : Store} {accesses : List Access}

@[simp] theorem horizon_addAll (store : Store) (accesses : List Access) :
    (store.addAll accesses).horizon = store.horizon := by
  induction accesses generalizing store with
  | nil => rfl
  | cons access rest ih => exact ih (store.add access)

structure Fresh (store : Store) (accesses : List Access) : Prop where
  nodup : (accesses.map Access.id).Nodup
  new : ∀ a ∈ accesses, store.get? a.id = none

theorem fresh_cons {access : Access} {rest : List Access} :
    store.Fresh (access :: rest) ↔
      store.get? access.id = none ∧ (store.add access).Fresh rest := by
  have get?_add (id : AccessId) :
      (store.add access).get? id = if id = access.id then some access else store.get? id :=
    Ordered.find?_put
  constructor
  · rintro ⟨nodup, new⟩
    obtain ⟨apart, nodup⟩ := List.nodup_cons.mp nodup
    refine ⟨new access List.mem_cons_self, nodup, fun a ha => ?_⟩
    have hne : a.id ≠ access.id := fun h => apart (h ▸ List.mem_map_of_mem ha)
    rw [get?_add, if_neg hne]
    exact new a (List.mem_cons_of_mem _ ha)
  · rintro ⟨first, nodup, new⟩
    have apart : ∀ a ∈ rest, a.id ≠ access.id ∧ store.get? a.id = none := by
      intro a ha
      have h := new a ha
      rw [get?_add] at h
      split at h
      · cases h
      · next hne => exact ⟨hne, h⟩
    refine ⟨List.nodup_cons.mpr ⟨?_, nodup⟩, ?_⟩
    · intro hmem
      obtain ⟨a, ha, hid⟩ := List.mem_map.mp hmem
      exact (apart a ha).1 hid
    · intro a ha
      rcases List.mem_cons.mp ha with rfl | ha
      · exact first
      · exact (apart a ha).2

theorem fresh_empty : Store.empty.Fresh accesses ↔ (accesses.map Access.id).Nodup :=
  ⟨Fresh.nodup, fun h => ⟨h, fun _ _ => rfl⟩⟩

theorem mem_addAll (fresh : store.Fresh accesses) (a : Access) :
    a ∈ (store.addAll accesses).accesses ↔ a ∈ accesses ∨ a ∈ store.accesses := by
  induction accesses generalizing store with
  | nil => simp [addAll]
  | cons access rest ih =>
    obtain ⟨new, fresh⟩ := fresh_cons.mp fresh
    refine (ih fresh).trans ?_
    rw [mem_add new, List.mem_cons]
    tauto

theorem reachable_addAll (fresh : store.Fresh accesses) (reachable : store.Reachable) :
    (store.addAll accesses).Reachable := by
  induction accesses generalizing store with
  | nil => exact reachable
  | cons access rest ih =>
    obtain ⟨new, fresh⟩ := fresh_cons.mp fresh
    refine ih fresh ?_
    have inserted := reachable.perform (.insert access)
    rwa [perform, insertIfNew_of_new new] at inserted

theorem reachable_restore (reachable : store.Reachable) (horizon : Option Cycle) :
    (store.restore horizon).Reachable := by
  cases horizon with
  | none => exact reachable
  | some cycle => exact reachable.perform (.observe cycle)

end Store

namespace Snapshot

open Store

theorem addAccess_eq_ok_iff {store after : Store} {access : Access} :
    addAccess store access = .ok after ↔
      access.Forward ∧ store.get? access.id = none ∧ after = store.add access := by
  rw [addAccess, Access.forward_iff]
  cases hstop : access.stop.filter (· < access.start) with
  | some last => simp
  | none =>
    cases hget : store.get? access.id with
    | some old => simp [insertIfNew_of_taken hget]
    | none => simp [insertIfNew_of_new hget, eq_comm]

theorem foldlM_addAccess_eq_ok_iff {store after : Store} {accesses : List Access} :
    accesses.foldlM addAccess store = .ok after ↔
      (∀ a ∈ accesses, a.Forward) ∧ store.Fresh accesses ∧ after = store.addAll accesses := by
  induction accesses generalizing store with
  | nil =>
    have fresh : store.Fresh [] := ⟨List.nodup_nil, fun _ h => absurd h List.not_mem_nil⟩
    simp only [List.foldlM_nil, pure, Except.pure, Except.ok.injEq, fresh, addAll, List.foldl_nil]
    simp [eq_comm]
  | cons access rest ih =>
    rw [List.foldlM_cons, except_bind_eq_ok]
    simp only [addAccess_eq_ok_iff, ih, fresh_cons, List.forall_mem_cons]
    constructor
    · rintro ⟨_, ⟨forward, new, rfl⟩, forwards, fresh, rfl⟩
      exact ⟨⟨forward, forwards⟩, ⟨new, fresh⟩, rfl⟩
    · rintro ⟨⟨forward, forwards⟩, ⟨new, fresh⟩, rfl⟩
      exact ⟨_, ⟨forward, new, rfl⟩, forwards, fresh, rfl⟩

theorem toStore_eq_ok_iff {snapshot : Snapshot} {store : Store} :
    snapshot.toStore = .ok store ↔
      snapshot.version = currentVersion ∧ (∀ a ∈ snapshot.accesses, a.Forward) ∧
        (snapshot.accesses.map Access.id).Nodup ∧
        store = (Store.empty.addAll snapshot.accesses).restore snapshot.horizon := by
  unfold toStore
  by_cases hversion : snapshot.version = currentVersion
  · simp only [hversion, ne_eq, not_true, if_false, true_and, ← fresh_empty]
    refine except_bind_eq_ok.trans ?_
    simp only [foldlM_addAccess_eq_ok_iff]
    constructor
    · rintro ⟨_, ⟨forward, fresh, rfl⟩, result⟩
      exact ⟨forward, fresh, (Except.ok.inj result).symm⟩
    · rintro ⟨forward, fresh, rfl⟩
      exact ⟨_, ⟨forward, fresh, rfl⟩, rfl⟩
  · simp only [hversion, ne_eq, not_false_eq_true, if_true, false_and, iff_false]
    intro impossible
    cases impossible

theorem toStore_spec {snapshot : Snapshot} {store : Store} (made : snapshot.toStore = .ok store) :
    store.Reachable ∧ (∀ a, a ∈ store.accesses ↔ a ∈ snapshot.accesses) ∧
      store.horizon = snapshot.horizon ∧ ∀ a ∈ store.accesses, a.Forward := by
  obtain ⟨-, forward, nodup, rfl⟩ := toStore_eq_ok_iff.mp made
  have fresh := fresh_empty.mpr nodup
  have mem (a : Access) : a ∈ ((Store.empty.addAll snapshot.accesses).restore
      snapshot.horizon).accesses ↔ a ∈ snapshot.accesses := by
    have h := mem_addAll fresh a
    simp only [Store.empty, Ordered.not_mem_empty, or_false] at h
    cases snapshot.horizon <;> exact h
  refine ⟨reachable_restore (reachable_addAll fresh reachable_empty) _, mem, ?_,
    fun a ha => forward a ((mem a).mp ha)⟩
  cases hz : snapshot.horizon with
  | none => exact horizon_addAll ..
  | some cycle => simp [restore, observe, Store.empty]

theorem toStore_ofStore {store : Store} (indexed : store.Indexed)
    (forward : ∀ a ∈ store.accesses, a.Forward) : (ofStore store).toStore = .ok store := by
  have made : (ofStore store).toStore =
      .ok ((Store.empty.addAll store.toList).restore store.horizon) :=
    toStore_eq_ok_iff.mpr ⟨rfl, forward, store.accesses.nodup_keys, rfl⟩
  obtain ⟨reachable, mem, horizon, -⟩ := toStore_spec made
  rw [made]
  exact congrArg Except.ok (reachable.indexed.eq indexed (Ordered.ext_mem mem) horizon)

theorem forward_of_toStore_ofStore {store after : Store}
    (made : (ofStore store).toStore = .ok after) : ∀ a ∈ store.accesses, a.Forward :=
  (toStore_eq_ok_iff.mp made).2.1

end Snapshot

end AccessTrace
