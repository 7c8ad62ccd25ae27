import AccessTrace.Proofs.Store.Indices

namespace AccessTrace.Store

variable {store : Store}

theorem mem_unended_iff (indexed : store.Indexed) (id : AccessId) :
    id ∈ store.unended ↔ ∃ a, store.get? id = some a ∧ a.stop = none := by
  rw [indexed.unended]
  constructor
  · rintro ⟨a, member, isOpen, rfl⟩
    exact ⟨a, get?_of_mem member, Option.isNone_iff_eq_none.mp isOpen⟩
  · rintro ⟨a, found, unended⟩
    obtain ⟨member, rfl⟩ := get?_eq_some_iff.mp found
    exact ⟨a, member, Option.isNone_iff_eq_none.mpr unended, rfl⟩

theorem mem_byStart_iff (indexed : store.Indexed) (cycle : Cycle) (id : AccessId) :
    (⟨cycle, id⟩ : Mark) ∈ store.byStart ↔ ∃ a, store.get? id = some a ∧ a.start = cycle := by
  rw [indexed.byStart]
  constructor
  · rintro ⟨a, member, mark⟩
    cases mark
    exact ⟨a, get?_of_mem member, rfl⟩
  · rintro ⟨a, found, rfl⟩
    obtain ⟨member, rfl⟩ := get?_eq_some_iff.mp found
    exact ⟨a, member, rfl⟩

theorem mem_byEnd_iff (indexed : store.Indexed) (cycle : Cycle) (id : AccessId) :
    (⟨cycle, id⟩ : Mark) ∈ store.byEnd ↔ ∃ a, store.get? id = some a ∧ a.stop = some cycle := by
  rw [indexed.byEnd]
  constructor
  · rintro ⟨a, member, mark⟩
    obtain ⟨last, ends, made⟩ := Option.map_eq_some_iff.mp mark
    cases made
    exact ⟨a, get?_of_mem member, ends⟩
  · rintro ⟨a, found, ends⟩
    obtain ⟨member, rfl⟩ := get?_eq_some_iff.mp found
    exact ⟨a, member, by rw [Access.stopMark?, ends, Option.map_some]⟩

theorem ends_perm (indexed : store.Indexed) :
    (store.byEnd.toList.map Mark.id ++ store.unended.toList).Perm
      (store.toList.map Access.id) := by
  refine (List.perm_ext_iff_of_nodup indexed.nodup_ends store.accesses.nodup_keys).mpr fun id => ?_
  rw [List.mem_append, List.mem_map, List.mem_map]
  constructor
  · rintro (⟨⟨cycle, id⟩, mark, rfl⟩ | isOpen)
    · obtain ⟨a, found, -⟩ := (mem_byEnd_iff indexed cycle id).mp mark
      exact ⟨a, get?_eq_some_iff.mp found⟩
    · obtain ⟨a, found, -⟩ := (mem_unended_iff indexed id).mp isOpen
      exact ⟨a, get?_eq_some_iff.mp found⟩
  · rintro ⟨a, member, rfl⟩
    have found := get?_of_mem member
    cases ends : a.stop with
    | none => exact .inr ((mem_unended_iff indexed a.id).mpr ⟨a, found, ends⟩)
    | some last => exact .inl ⟨⟨last, a.id⟩, (mem_byEnd_iff indexed ..).mpr ⟨a, found, ends⟩, rfl⟩

theorem addresses_eq_none_iff (indexed : store.Indexed) :
    store.addresses = none ↔ store.isEmpty := by
  have range := indexed.addresses
  rw [isEmpty_iff]
  cases known : store.addresses with
  | none =>
    rw [known] at range
    exact ⟨fun _ => range, fun _ => rfl⟩
  | some bounds =>
    rw [known] at range
    obtain ⟨⟨a, member, -⟩, -⟩ := range
    constructor
    · intro impossible
      cases impossible
    · intro empty
      exact absurd member (empty a)

theorem addresses_eq (indexed : store.Indexed) :
    store.addresses.map AddressRange.lowest = (store.toList.map Access.address).min? ∧
      store.addresses.map AddressRange.highest = (store.toList.map Access.address).max? := by
  have range := indexed.addresses
  cases known : store.addresses with
  | none =>
    rw [known] at range
    have empty : store.toList = [] := List.eq_nil_iff_forall_not_mem.mpr range
    rw [empty]
    exact ⟨rfl, rfl⟩
  | some bounds =>
    rw [known] at range
    obtain ⟨⟨low, low_mem, is_low⟩, ⟨high, high_mem, is_high⟩, inside⟩ := range
    have all {x : Address} (member : x ∈ store.toList.map Access.address) :
        bounds.lowest ≤ x ∧ x ≤ bounds.highest := by
      obtain ⟨a, known, rfl⟩ := List.mem_map.mp member
      exact inside a known
    constructor
    · refine (List.min?_eq_some_iff.mpr ⟨?_, fun x member => (all member).1⟩).symm
      exact List.mem_map.mpr ⟨low, low_mem, is_low⟩
    · refine (List.max?_eq_some_iff.mpr ⟨?_, fun x member => (all member).2⟩).symm
      exact List.mem_map.mpr ⟨high, high_mem, is_high⟩

/-- Every part of a store says what its accesses say, and nothing else. That an access is found
under its own id is carried by the type `Ordered Access.id`. -/
structure Coherent (store : Store) : Prop where
  keyed (id : AccessId) (a : Access) : store.get? id = some a → a.id = id
  byStart (cycle : Cycle) (id : AccessId) :
    ⟨cycle, id⟩ ∈ store.byStart ↔ ∃ a, store.get? id = some a ∧ a.start = cycle
  byEnd (cycle : Cycle) (id : AccessId) :
    ⟨cycle, id⟩ ∈ store.byEnd ↔ ∃ a, store.get? id = some a ∧ a.stop = some cycle
  unended (id : AccessId) : id ∈ store.unended ↔ ∃ a, store.get? id = some a ∧ a.stop = none
  /-- The ends of the closed accesses and the open accesses share out the ids. -/
  ends : (store.byEnd.toList.map Mark.id ++ store.unended.toList).Perm (store.toList.map Access.id)
  no_addresses : store.addresses = none ↔ store.isEmpty
  lowest : store.addresses.map AddressRange.lowest = (store.toList.map Access.address).min?
  highest : store.addresses.map AddressRange.highest = (store.toList.map Access.address).max?

theorem Indexed.coherent (indexed : store.Indexed) : store.Coherent where
  keyed _ _ found := (get?_eq_some_iff.mp found).2
  byStart := mem_byStart_iff indexed
  byEnd := mem_byEnd_iff indexed
  unended := mem_unended_iff indexed
  ends := ends_perm indexed
  no_addresses := addresses_eq_none_iff indexed
  lowest := (addresses_eq indexed).1
  highest := (addresses_eq indexed).2

/-- All parts of a store that there can be agree, and it is one with another such store if and only
if both have the same accesses and the same horizon. -/
theorem coherent_of_reachable (reachable : store.Reachable) :
    store.Coherent ∧ ∀ other : Store, other.Reachable →
      (store = other ↔ store.toList = other.toList ∧ store.horizon = other.horizon) := by
  refine ⟨reachable.indexed.coherent, fun other reachable' => ?_⟩
  constructor
  · rintro rfl
    exact ⟨rfl, rfl⟩
  · rintro ⟨accesses, horizon⟩
    exact reachable.indexed.eq reachable'.indexed (Ordered.ext accesses) horizon

def entangled : List Call :=
  [.close ⟨2⟩ 3, .insert ⟨⟨2⟩, .load, 0x40, 5, none⟩, .insert ⟨⟨9⟩, .store, 0x10, 7, some 4⟩,
    .insert ⟨⟨2⟩, .store, 0x08, 1, some 2⟩, .observe 6, .close ⟨2⟩ 9, .close ⟨9⟩ 1, .close ⟨2⟩ 30,
    .insert ⟨⟨5⟩, .other "fetch", 0xFFFFFFFFFFFFFFFF, 9, none⟩, .observe 2]

def disentangled : List Call :=
  [.observe 6, .insert ⟨⟨5⟩, .other "fetch", 0xFFFFFFFFFFFFFFFF, 9, none⟩,
    .insert ⟨⟨9⟩, .store, 0x10, 7, some 4⟩, .insert ⟨⟨2⟩, .load, 0x40, 5, some 9⟩]

theorem coherent_of_reachable_entangled :
    (performAll .empty entangled).Reachable ∧ (performAll .empty disentangled).Reachable ∧
      (performAll .empty entangled).toList.map Access.id = [⟨2⟩, ⟨5⟩, ⟨9⟩] ∧
      (performAll .empty entangled).Coherent ∧
      performAll .empty entangled = performAll .empty disentangled := by
  have reachable : (performAll .empty entangled).Reachable := ⟨entangled, rfl⟩
  have reachable' : (performAll .empty disentangled).Reachable := ⟨disentangled, rfl⟩
  obtain ⟨coherent, told⟩ := coherent_of_reachable reachable
  have same : performAll .empty entangled = performAll .empty disentangled :=
    (told _ reachable').mpr (by decide)
  exact ⟨reachable, reachable', by decide, coherent, same⟩

end AccessTrace.Store
