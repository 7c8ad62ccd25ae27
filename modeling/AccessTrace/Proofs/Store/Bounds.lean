import AccessTrace.Proofs.Snapshot.Rebuild
import AccessTrace.Proofs.Store.Coherence
import AccessTrace.Proofs.Store.Growth
import AccessTrace.Proofs.Store.Lifecycle

namespace AccessTrace

/-- The latest cycle that is known of an access: its end, or its start as long as it is open. -/
def Access.lastKnown (access : Access) : Cycle := access.stop.getD access.start

/-- Whatever the first bounds take in, the later ones take in as well. -/
structure Bounds.Widens (bounds later : Bounds) : Prop where
  lowest : later.minAddress ≤ bounds.minAddress
  highest : bounds.maxAddress ≤ later.maxAddress
  last : bounds.maxCycle ≤ later.maxCycle

namespace Store

variable {store : Store} {bounds : Bounds}

/-- The bounds are the least and the greatest address and the latest cycle known of any access. -/
structure HasBounds (store : Store) (bounds : Bounds) : Prop where
  lowest : (store.toList.map Access.address).min? = some bounds.minAddress
  highest : (store.toList.map Access.address).max? = some bounds.maxAddress
  last : (store.toList.map Access.lastKnown).max? = some bounds.maxCycle

theorem addresses_of_bounds (known : store.bounds = some bounds) :
    store.addresses = some ⟨bounds.minAddress, bounds.maxAddress⟩ := by
  simp only [Store.bounds, Option.bind_eq_bind, Option.bind_eq_some_iff] at known
  obtain ⟨range, found, last, -, made⟩ := known
  cases made
  exact found

theorem lastKnown_le_maxCycle (indexed : store.Indexed) (known : store.bounds = some bounds)
    {a : Access} (member : a ∈ store.accesses) : a.lastKnown ≤ bounds.maxCycle := by
  have within := within_maxCycle indexed known member
  cases ends : a.stop with
  | none =>
    simp only [Access.lastKnown, ends, Option.getD_none]
    exact within.1
  | some last =>
    simp only [Access.lastKnown, ends, Option.getD_some]
    exact within.2 last ends

theorem maxCycle_eq (indexed : store.Indexed) (forward : ∀ a ∈ store.accesses, a.Forward)
    (known : store.bounds = some bounds) :
    (store.toList.map Access.lastKnown).max? = some bounds.maxCycle := by
  have inhabited : store.toList ≠ [] := by
    intro empty
    have none := (bounds_eq_none_iff indexed).mpr (by rw [isEmpty, ← toList, empty]; rfl)
    rw [known] at none
    cases none
  obtain ⟨latest, found⟩ : ∃ latest, (store.toList.map Access.lastKnown).max? = some latest := by
    apply Option.ne_none_iff_exists'.mp
    simpa using inhabited
  obtain ⟨attained, above⟩ := List.max?_eq_some_iff.mp found
  have above_all (a : Access) (member : a ∈ store.accesses) : a.lastKnown ≤ latest :=
    above a.lastKnown (List.mem_map.mpr ⟨a, member, rfl⟩)
  have le : latest ≤ bounds.maxCycle := by
    obtain ⟨a, member, rfl⟩ := List.mem_map.mp attained
    exact lastKnown_le_maxCycle indexed known member
  have ge : bounds.maxCycle ≤ latest := by
    apply maxCycle_le indexed known
    intro a member
    have last := above_all a member
    cases ends : a.stop with
    | none =>
      simp only [Access.lastKnown, ends, Option.getD_none] at last
      refine ⟨last, ?_⟩
      intro _ none
      cases none
    | some stop =>
      simp only [Access.lastKnown, ends, Option.getD_some] at last
      refine ⟨UInt64.le_trans (forward a member stop ends) last, ?_⟩
      rintro _ ⟨⟩
      exact last
  rw [found, UInt64.le_antisymm le ge]

theorem hasBounds (indexed : store.Indexed) (forward : ∀ a ∈ store.accesses, a.Forward)
    (known : store.bounds = some bounds) : store.HasBounds bounds := by
  obtain ⟨lowest, highest⟩ := addresses_eq indexed
  rw [addresses_of_bounds known] at lowest highest
  exact ⟨lowest.symm, highest.symm, maxCycle_eq indexed forward known⟩

section Runs

theorem grows_performAll (store : Store) (calls : List Call) :
    store.Grows 0 (store.performAll calls) := by
  intro id
  cases known : store.get? id with
  | some a =>
    rw [get?_performAll_of_some known]
    exact .kept a _ fun _ _ => UInt64.zero_le
  | none =>
    cases (store.performAll calls).get? id with
    | none => exact .absent
    | some a => exact .started UInt64.zero_le

variable {later : Store} {cycle : Cycle}

theorem Grows.widens (grows : store.Grows cycle later) (indexed : store.Indexed)
    (indexed' : later.Indexed) (known : store.bounds = some bounds) {wider : Bounds}
    (known' : later.bounds = some wider) : bounds.Widens wider := by
  have range := indexed.addresses
  have range' := indexed'.addresses
  rw [addresses_of_bounds known] at range
  rw [addresses_of_bounds known'] at range'
  obtain ⟨⟨low, low_mem, is_low⟩, ⟨high, high_mem, is_high⟩, -⟩ := range
  have inside {a : Access} (member : a ∈ store.accesses) :
      wider.minAddress ≤ a.address ∧ a.address ≤ wider.maxAddress := by
    obtain ⟨stop, kept⟩ := grows.exists_mem member
    exact range'.2.2 (a.endedBy stop) kept
  constructor
  · have above := (inside low_mem).1
    rwa [is_low] at above
  · have below := (inside high_mem).2
    rwa [is_high] at below
  · exact grows.maxCycle_le indexed indexed' known known'

theorem isSome_window?_of_widens (known : store.bounds = some bounds) {wider : Bounds}
    (known' : later.bounds = some wider) (widens : bounds.Widens wider) {upper size : Cycle}
    {filter : KindFilter} (answered : (store.window? upper size filter).isSome) :
    (later.window? upper size filter).isSome := by
  obtain ⟨window, found⟩ := Option.isSome_iff_exists.mp answered
  obtain ⟨_, same, reached, -⟩ := window?_eq_some_iff.mp found
  cases known.symm.trans same
  have reached' := UInt64.le_trans reached widens.last
  exact Option.isSome_iff_exists.mpr ⟨_, window?_eq_some_iff.mpr ⟨wider, known', reached', rfl⟩⟩

end Runs

/-- There are bounds if there are accesses. They are those of the addresses and of what is known of
each access, whatever the horizon. They only widen, whatever calls come next, and so a query that
has an answer goes on to have one. -/
theorem bounds_of_reachable (reachable : store.Reachable)
    (forward : ∀ a ∈ store.accesses, a.Forward) :
    (store.bounds = none ↔ store.toList = []) ∧
      (∀ bounds, store.bounds = some bounds → store.HasBounds bounds) ∧
      (∀ horizon, { store with horizon }.bounds = store.bounds) ∧
      ∀ bounds, store.bounds = some bounds → ∀ calls,
        ∃ wider, (store.performAll calls).bounds = some wider ∧ bounds.Widens wider ∧
          ∀ upper size filter, (store.window? upper size filter).isSome →
            ((store.performAll calls).window? upper size filter).isSome := by
  have indexed := reachable.indexed
  refine ⟨?_, fun bounds known => hasBounds indexed forward known, fun _ => rfl, ?_⟩
  · exact (bounds_eq_none_iff indexed).trans List.isEmpty_iff
  · intro bounds known calls
    have grows := grows_performAll store calls
    have indexed' := indexed.performAll calls
    obtain ⟨wider, known'⟩ := grows.exists_bounds indexed indexed' known
    have widens := grows.widens indexed indexed' known known'
    refine ⟨wider, known', widens, fun upper size filter answered => ?_⟩
    exact isSome_window?_of_widens known known' widens answered

/-- A closed access that starts before the open one but ends after its start, and a horizon past
both. -/
def staggered : List Call :=
  [.insert ⟨⟨1⟩, .load, 0x300, 0, some 90⟩, .insert ⟨⟨2⟩, .store, 0x100, 80, none⟩, .observe 120]

theorem bounds_of_reachable_staggered :
    (performAll .empty staggered).Reachable ∧
      (∀ a ∈ (performAll .empty staggered).accesses, a.Forward) ∧
      (performAll .empty staggered).bounds = some ⟨0x100, 0x300, 90⟩ ∧
      (performAll .empty staggered).HasBounds ⟨0x100, 0x300, 90⟩ ∧
      ∃ wider, (performAll .empty (staggered ++ [.close ⟨2⟩ 130,
        .insert ⟨⟨3⟩, .load, 0x80, 125, none⟩])).bounds = some wider ∧
        Bounds.Widens ⟨0x100, 0x300, 90⟩ wider := by
  have reachable : (performAll .empty staggered).Reachable := ⟨staggered, rfl⟩
  have forward : ∀ a ∈ (performAll .empty staggered).accesses, a.Forward := by decide
  have known : (performAll .empty staggered).bounds = some ⟨0x100, 0x300, 90⟩ := by decide
  obtain ⟨-, told, -, widen⟩ := bounds_of_reachable reachable forward
  obtain ⟨wider, known', widens, -⟩ := widen _ known [.close ⟨2⟩ 130,
    .insert ⟨⟨3⟩, .load, 0x80, 125, none⟩]
  rw [← performAll_append] at known'
  exact ⟨reachable, forward, known, told _ known, wider, known', widens⟩

end Store

end AccessTrace
