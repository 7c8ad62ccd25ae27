import AccessTrace.Proofs.Snapshot.Rebuild

/-! Making a store of a snapshot and taking a snapshot of a store undo each other. The order of the
accesses of a snapshot does not matter, and what keeps a store from coming back is an access that
ends before it starts. -/

namespace AccessTrace

theorem Access.exists_of_not_forward {access : Access} (backwards : ¬ access.Forward) :
    ∃ last, access.stop = some last ∧ last < access.start := by
  simpa [Access.Forward] using backwards

namespace Store

variable {store : Store} {accesses : List Access}

theorem Fresh.of_append_cons {front behind : List Access} {a : Access}
    (fresh : store.Fresh (front ++ a :: behind)) : store.Fresh front where
  nodup := (List.map_append ▸ fresh.nodup).of_append_left
  new b member := fresh.new b (List.mem_append_left _ member)

theorem toList_perm {reached : Store} (nodup : (accesses.map Access.id).Nodup)
    (same : ∀ a, a ∈ reached.accesses ↔ a ∈ accesses) : reached.toList.Perm accesses :=
  (List.perm_ext_iff_of_nodup reached.accesses.nodup_toList nodup.of_map).mpr same

end Store

namespace Snapshot

open Store

variable {snapshot : Snapshot} {store : Store}

def byId (accesses : List Access) : List Access :=
  accesses.mergeSort fun a b => a.id.number ≤ b.id.number

theorem byId_perm (accesses : List Access) : (byId accesses).Perm accesses :=
  List.mergeSort_perm ..

theorem pairwise_byId (accesses : List Access) :
    (byId accesses).Pairwise fun a b => a.id.number ≤ b.id.number := by
  have sorted : (byId accesses).Pairwise fun a b => decide (a.id.number ≤ b.id.number) := by
    apply List.pairwise_mergeSort
    · intro a b c first second
      simp only [decide_eq_true_eq] at first second ⊢
      exact UInt64.le_trans first second
    · intro a b
      simpa using UInt64.le_total a.id.number b.id.number
  exact sorted.imp of_decide_eq_true

theorem toList_eq_byId {accesses : List Access} (same : store.toList.Perm accesses) :
    store.toList = byId accesses := by
  refine List.Perm.eq_of_pairwise ?_
    (store.accesses.sorted.imp fun before => UInt64.le_of_lt before) (pairwise_byId accesses)
    (same.trans (byId_perm accesses).symm)
  intro a b member member' before after
  have member' : b ∈ store.accesses := same.mem_iff.mpr ((byId_perm accesses).mem_iff.mp member')
  have number : a.id.number = b.id.number := UInt64.le_antisymm before after
  exact Ordered.eq_of_key_eq member member' (congrArg AccessId.mk number)

/-- What a snapshot has to be for a store to be made of it. -/
structure Valid (snapshot : Snapshot) : Prop where
  version : snapshot.version = currentVersion
  apart : (snapshot.accesses.map Access.id).Nodup
  forward : ∀ a ∈ snapshot.accesses, ∀ last, a.stop = some last → a.start ≤ last

theorem valid_iff_exists_toStore : snapshot.Valid ↔ ∃ store, snapshot.toStore = .ok store := by
  constructor
  · rintro ⟨version, apart, forward⟩
    exact ⟨_, toStore_eq_ok_iff.mpr ⟨version, forward, apart, rfl⟩⟩
  · rintro ⟨store, made⟩
    obtain ⟨version, forward, apart, -⟩ := toStore_eq_ok_iff.mp made
    exact ⟨version, apart, forward⟩

theorem toList_perm_of_toStore (made : snapshot.toStore = .ok store) :
    store.toList.Perm snapshot.accesses :=
  toList_perm (valid_iff_exists_toStore.mpr ⟨store, made⟩).apart (toStore_spec made).2.1

theorem toStore_perm (made : snapshot.toStore = .ok store) {accesses : List Access}
    (same : accesses.Perm snapshot.accesses) :
    Snapshot.toStore { snapshot with accesses } = .ok store := by
  obtain ⟨version, apart, forward⟩ := valid_iff_exists_toStore.mpr ⟨store, made⟩
  have valid : Snapshot.Valid { snapshot with accesses } :=
    ⟨version, (same.map Access.id).nodup_iff.mpr apart,
      fun a member => forward a (same.mem_iff.mp member)⟩
  obtain ⟨other, made'⟩ := valid_iff_exists_toStore.mp valid
  obtain ⟨reachable, member, horizon, -⟩ := toStore_spec made
  obtain ⟨reachable', member', horizon', -⟩ := toStore_spec made'
  -- Both stores have the accesses of the one list, and their indices follow.
  have accesses : other.accesses = store.accesses := Ordered.ext_mem fun a => by
    rw [member', member, same.mem_iff]
  rw [made', reachable'.indexed.eq reachable.indexed accesses (horizon'.trans horizon.symm)]

theorem ofStore_of_toStore (made : snapshot.toStore = .ok store) :
    ofStore store = { snapshot with accesses := byId snapshot.accesses } := by
  have version := (toStore_eq_ok_iff.mp made).1
  have horizon := (toStore_spec made).2.2.1
  rw [ofStore, toList_eq_byId (toList_perm_of_toStore made), horizon, ← version]

theorem addAccess_of_backwards {access : Access} {last : Cycle} (ends : access.stop = some last)
    (backwards : last < access.start) :
    addAccess store access = .error (.backwards access.id access.start last) := by
  rw [addAccess, ends, Option.filter_some, if_pos (decide_eq_true backwards)]

theorem foldlM_addAccess_of_backwards {front : List Access} {access : Access} {last : Cycle}
    (fresh : store.Fresh front) (forward : ∀ a ∈ front, a.Forward)
    (ends : access.stop = some last) (backwards : last < access.start) (behind : List Access) :
    (front ++ access :: behind).foldlM addAccess store =
      .error (.backwards access.id access.start last) := by
  have before : front.foldlM addAccess store = .ok (store.addAll front) :=
    foldlM_addAccess_eq_ok_iff.mpr ⟨forward, fresh, rfl⟩
  have after : (access :: behind).foldlM addAccess (store.addAll front) =
      .error (.backwards access.id access.start last) := by
    rw [List.foldlM_cons, addAccess_of_backwards ends backwards]
    rfl
  rw [List.foldlM_append, before]
  exact after

theorem toStore_ofStore_of_backwards (backwards : ¬ ∀ a ∈ store.accesses, a.Forward) :
    ∃ a ∈ store.accesses, ∃ last, a.stop = some last ∧ last < a.start ∧
      (∀ b ∈ store.accesses, b.id < a.id → b.Forward) ∧
      (ofStore store).toStore = .error (.backwards a.id a.start last) := by
  obtain ⟨a, found⟩ : ∃ a, store.toList.find? (fun a => ¬ a.Forward) = some a := by
    refine Option.isSome_iff_exists.mp (List.find?_isSome.mpr ?_)
    simpa [Ordered.mem_iff, Store.toList] using backwards
  obtain ⟨isFirst, front, behind, parted, forward⟩ := List.find?_eq_some_iff_append.mp found
  have forward : ∀ b ∈ front, b.Forward := by simpa using forward
  obtain ⟨last, ends, backwards⟩ := Access.exists_of_not_forward (of_decide_eq_true isFirst)
  have sorted : (front ++ a :: behind).Pairwise fun b c => b.id < c.id :=
    parted ▸ store.accesses.sorted
  have lowest (b : Access) (member : b ∈ store.accesses) (below : b.id < a.id) : b.Forward := by
    rcases List.mem_append.mp (parted ▸ member : b ∈ front ++ a :: behind) with member | member
    · exact forward b member
    · -- From `a` on no id is below that of `a`.
      rcases List.mem_cons.mp member with rfl | member
      · exact absurd below (StrictOrder.irrefl _)
      · have above := (List.pairwise_cons.mp (List.pairwise_append.mp sorted).2.1).1 b member
        exact absurd below (StrictOrder.asymm above)
  have fresh : Store.empty.Fresh (front ++ a :: behind) :=
    fresh_empty.mpr (parted ▸ store.accesses.nodup_keys)
  have refused :=
    foldlM_addAccess_of_backwards fresh.of_append_cons forward ends backwards behind
  refine ⟨a, ?_, last, ends, backwards, lowest, ?_⟩
  · exact List.mem_of_find?_eq_some found
  · rw [toStore, ofStore, parted]
    simp [refused, bind, Except.bind]

/-- A store can be made of the snapshots that are valid, and of no others. It has their accesses, in
whichever order they are, and its own snapshot has them in the order of their ids. A store that
there can be comes back from its snapshot unless one of its accesses ends before it starts, and of
those the one with the lowest id is complained about. -/
theorem ofStore_inverse_toStore :
    (∀ snapshot : Snapshot,
      ((∃ store, snapshot.toStore = .ok store) ↔ snapshot.Valid) ∧
      ∀ store, snapshot.toStore = .ok store →
        store.toList.Perm snapshot.accesses ∧ store.horizon = snapshot.horizon ∧
        (∀ accesses : List Access, accesses.Perm snapshot.accesses →
          Snapshot.toStore { snapshot with accesses } = .ok store) ∧
        ofStore store = { snapshot with accesses := byId snapshot.accesses }) ∧
    ∀ store : Store, store.Reachable →
      ((ofStore store).toStore = .ok store ↔ ∀ a ∈ store.accesses, a.Forward) ∧
      ((¬ ∀ a ∈ store.accesses, a.Forward) →
        ∃ a ∈ store.accesses, ∃ last, a.stop = some last ∧ last < a.start ∧
          (∀ b ∈ store.accesses, b.id < a.id → b.Forward) ∧
          (ofStore store).toStore = .error (.backwards a.id a.start last)) := by
  refine ⟨fun snapshot => ⟨valid_iff_exists_toStore.symm, fun store made => ?_⟩,
    fun store reachable => ⟨⟨forward_of_toStore_ofStore, ?_⟩, toStore_ofStore_of_backwards⟩⟩
  · exact ⟨toList_perm_of_toStore made, (toStore_spec made).2.2.1,
      fun _ same => toStore_perm made same, ofStore_of_toStore made⟩
  · exact toStore_ofStore reachable.indexed

/-- Accesses that are not in the order of their ids. -/
example :
    let snapshot : Snapshot :=
      ⟨1, some 3, [⟨⟨9⟩, .store, 16, 7, none⟩, ⟨⟨2⟩, .load, 64, 5, some 5⟩]⟩
    snapshot.toStore.toOption.map ofStore =
      some ⟨1, some 3, [⟨⟨2⟩, .load, 64, 5, some 5⟩, ⟨⟨9⟩, .store, 16, 7, none⟩]⟩ := by
  decide

end Snapshot

end AccessTrace
