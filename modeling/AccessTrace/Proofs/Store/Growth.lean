import AccessTrace.Proofs.Store.Window

/-! How a store may grow while the clock shows no cycle before a given one: an access that it holds
stays and ends no earlier, if it ends at all, and one that is new starts no earlier. A window that
ends by that cycle shows none of this. -/

namespace AccessTrace

/-- The access of an id before and after a time in which the clock is never before the cycle. -/
inductive Access.Grows (cycle : Cycle) : Option Access → Option Access → Prop where
  | absent : Grows cycle none none
  | started {access : Access} (late : cycle ≤ access.start) : Grows cycle none (some access)
  | kept (access : Access) (stop : Option Cycle) (late : ∀ last, stop = some last → cycle ≤ last) :
      Grows cycle (some access) (some (access.endedBy stop))

namespace Access

variable {cycle lower upper size : Cycle} {filter : KindFilter} {access : Access}
  {before between after : Option Access}

theorem Grows.refl (known : Option Access) : Grows cycle known known := by
  cases known with
  | none => exact .absent
  | some access =>
    have unended : ∀ last, (none : Option Cycle) = some last → cycle ≤ last := by
      intro last impossible
      cases impossible
    have same := Grows.kept access none unended
    rwa [endedBy_none] at same

theorem Grows.trans (first : Grows cycle before between) (second : Grows cycle between after) :
    Grows cycle before after := by
  cases first with
  | absent => exact second
  | started late =>
    -- An end that comes later leaves the start, which is all that is asked of a new access.
    cases second with
    | kept _ stop _ => exact .started late
  | kept access stop late =>
    cases second with
    | kept _ later late' =>
      rw [endedBy_endedBy]
      apply Grows.kept
      intro last ends
      rcases Option.or_eq_some_iff.mp ends with ends | ⟨-, ends⟩
      · exact late last ends
      · exact late' last ends

theorem Grows.of_le {earlier : Cycle} (grows : Grows cycle before after) (le : earlier ≤ cycle) :
    Grows earlier before after := by
  cases grows with
  | absent => exact .absent
  | started late => exact .started (UInt64.le_trans le late)
  | kept access stop late =>
    exact .kept access stop fun last ends => UInt64.le_trans le (late last ends)

theorem Grows.of_some (grows : Grows cycle (some access) after) :
    ∃ stop, after = some (access.endedBy stop) ∧ ∀ last, stop = some last → cycle ≤ last := by
  cases grows with
  | kept _ stop late => exact ⟨stop, rfl, late⟩

/-- An end inside of a window does not matter for whether the window shows the access. -/
theorem isShown_endedBy {stop : Option Cycle} (inside : ∀ last, stop = some last → lower < last) :
    (access.endedBy stop).isShown lower upper filter = access.isShown lower upper filter := by
  cases isOpen : access.isOpen with
  | false => rw [endedBy_of_closed isOpen]
  | true =>
    cases stop with
    | none => rw [endedBy_none]
    | some last =>
      have late := inside last rfl
      have before : (access.isOpen || access.stop.any (lower < ·)) = true := by
        rw [isOpen, Bool.true_or]
      have after : ((access.close last).isOpen || (access.close last).stop.any (lower < ·)) = true := by
        simp [close, late]
      rw [endedBy_of_open isOpen, isShown, isShown, before, after]
      rfl

def shown? (lower upper : Cycle) (filter : KindFilter) (known : Option Access) : Option Address :=
  (known.filter (isShown lower upper filter)).map address

theorem isShown_of_le_start (late : upper ≤ access.start) (lower : Cycle) (filter : KindFilter) :
    access.isShown lower upper filter = false := by
  have past : ¬ access.start < upper := UInt64.not_lt.mpr late
  simp [isShown, past]

theorem Grows.shown?_eq (grows : Grows cycle before after) (positive : 0 < size)
    (past : upper ≤ cycle) :
    shown? (monus upper size) upper filter after =
      shown? (monus upper size) upper filter before := by
  cases grows with
  | absent => rfl
  | started late =>
    have hidden := isShown_of_le_start (UInt64.le_trans past late) (monus upper size) filter
    simp [shown?, hidden]
  | kept access stop late =>
    have same : (access.endedBy stop).isShown (monus upper size) upper filter =
        access.isShown (monus upper size) upper filter := by
      -- Without an access that starts before its end, the window might have no cycle inside.
      by_cases started : access.start < upper
      · apply isShown_endedBy
        intro last ends
        have inside := UInt64.le_trans past (late last ends)
        exact UInt64.lt_of_lt_of_le (monus_lt positive started) inside
      · have hidden : upper ≤ access.start := UInt64.not_lt.mp started
        have hidden_after : upper ≤ (access.endedBy stop).start := hidden
        rw [isShown_of_le_start hidden, isShown_of_le_start hidden_after]
    simp only [shown?, Option.filter_some, same]
    split <;> rfl

end Access

/-- Two windows that differ at most in the order of their addresses. -/
structure Window.Alike (window other : Window) : Prop where
  lower_eq : other.lowerCycle = window.lowerCycle
  upper_eq : other.upperCycle = window.upperCycle
  filter_eq : other.filter = window.filter
  addresses_perm : other.addresses.Perm window.addresses

namespace Store

variable {s t u : Store} {cycle lower upper size : Cycle} {filter : KindFilter}

/-- The store before and after a time in which the clock is never before the cycle. -/
def Grows (cycle : Cycle) (s t : Store) : Prop :=
  ∀ id, Access.Grows cycle (s.get? id) (t.get? id)

theorem Grows.refl (s : Store) : s.Grows cycle s := fun id => .refl (s.get? id)

theorem Grows.trans (first : Grows cycle s t) (second : Grows cycle t u) : Grows cycle s u :=
  fun id => (first id).trans (second id)

def shownById (store : Store) (lower upper : Cycle) (filter : KindFilter) :
    List (AccessId × Address) :=
  (store.toList.filter (Access.isShown lower upper filter)).map fun a => (a.id, a.address)

theorem mem_shownById {id : AccessId} {address : Address} :
    (id, address) ∈ s.shownById lower upper filter ↔
      Access.shown? lower upper filter (s.get? id) = some address := by
  simp only [shownById, List.mem_map, List.mem_filter, Access.shown?, Option.map_eq_some_iff,
    Option.filter_eq_some_iff, get?_eq_some_iff, Prod.mk.injEq]
  constructor
  · rintro ⟨a, ⟨member, shown⟩, rfl, rfl⟩
    exact ⟨a, ⟨⟨member, rfl⟩, shown⟩, rfl⟩
  · rintro ⟨a, ⟨⟨member, rfl⟩, shown⟩, rfl⟩
    exact ⟨a, ⟨member, shown⟩, rfl, rfl⟩

theorem nodup_shownById (store : Store) (lower upper : Cycle) (filter : KindFilter) :
    (store.shownById lower upper filter).Nodup := by
  apply List.Nodup.of_map Prod.fst
  rw [shownById, List.map_map]
  exact store.accesses.nodup_keys.sublist (List.filter_sublist.map _)

theorem map_shownById (store : Store) (lower upper : Cycle) (filter : KindFilter) :
    (store.shownById lower upper filter).map Prod.snd = store.scan lower upper filter := by
  rw [shownById, List.map_map]
  rfl

theorem scan_perm (same : ∀ id, Access.shown? lower upper filter (s.get? id) =
    Access.shown? lower upper filter (t.get? id)) :
    (s.scan lower upper filter).Perm (t.scan lower upper filter) := by
  have shown : (s.shownById lower upper filter).Perm (t.shownById lower upper filter) := by
    apply (List.perm_ext_iff_of_nodup (nodup_shownById ..) (nodup_shownById ..)).mpr
    rintro ⟨id, address⟩
    rw [mem_shownById, mem_shownById, same id]
  have addresses := shown.map Prod.snd
  rwa [map_shownById, map_shownById] at addresses

theorem Grows.exists_mem (grows : s.Grows cycle t) {a : Access} (member : a ∈ s.accesses) :
    ∃ stop, a.endedBy stop ∈ t.accesses := by
  have grown := grows a.id
  rw [get?_of_mem member] at grown
  obtain ⟨stop, found, -⟩ := grown.of_some
  exact ⟨stop, (get?_eq_some_iff.mp found).1⟩

theorem Grows.maxCycle_le (grows : s.Grows cycle t) (indexed_s : s.Indexed) (indexed_t : t.Indexed)
    {first last : Bounds} (known : s.bounds = some first) (known' : t.bounds = some last) :
    first.maxCycle ≤ last.maxCycle := by
  apply Store.maxCycle_le indexed_s known
  intro a member
  obtain ⟨stop, kept⟩ := grows.exists_mem member
  obtain ⟨starts_by, ends_by⟩ := within_maxCycle indexed_t known' kept
  refine ⟨starts_by, fun ended closed => ?_⟩
  have still : (a.endedBy stop).stop = some ended := by
    rw [Access.endedBy, closed, Option.some_or]
  exact ends_by ended still

theorem Grows.exists_bounds (grows : s.Grows cycle t) (indexed_s : s.Indexed)
    (indexed_t : t.Indexed) {first : Bounds} (known : s.bounds = some first) :
    ∃ last, t.bounds = some last := by
  apply Option.ne_none_iff_exists'.mp
  intro unknown
  have empty := isEmpty_iff.mp ((bounds_eq_none_iff indexed_t).mp unknown)
  have empty_before : ∀ a, a ∉ s.accesses := by
    intro a member
    obtain ⟨stop, kept⟩ := grows.exists_mem member
    exact empty (a.endedBy stop) kept
  have unknown_before := (bounds_eq_none_iff indexed_s).mpr (isEmpty_iff.mpr empty_before)
  rw [unknown_before] at known
  cases known

/-- A query that has an answer has the same one later, if the clock is never before the last cycle
that the store knew. -/
theorem Grows.window? (grows : s.Grows cycle t) (indexed_s : s.Indexed) (indexed_t : t.Indexed)
    (settled : ∀ bounds, s.bounds = some bounds → bounds.maxCycle ≤ cycle) (positive : 0 < size)
    {window : Window} (answered : s.window? upper size filter = some window) :
    ∃ later, t.window? upper size filter = some later ∧ window.Alike later := by
  obtain ⟨first, known, reached, rfl⟩ := window?_eq_some_iff.mp answered
  obtain ⟨last, known'⟩ := grows.exists_bounds indexed_s indexed_t known
  have reached' := UInt64.le_trans reached (grows.maxCycle_le indexed_s indexed_t known known')
  have past := UInt64.le_trans reached (settled first known)
  refine ⟨_, window?_eq_some_iff.mpr ⟨last, known', reached', rfl⟩, ⟨rfl, rfl, rfl, ?_⟩⟩
  -- The two stores may walk different indices, so both answers are compared with a scan.
  have before := walk_candidates_perm indexed_s (monus upper size) upper first.maxCycle filter
  have after := walk_candidates_perm indexed_t (monus upper size) upper last.maxCycle filter
  have same : (t.scan (monus upper size) upper filter).Perm
      (s.scan (monus upper size) upper filter) :=
    scan_perm fun id => (grows id).shown?_eq positive past
  exact (after.trans same).trans before.symm

end Store

end AccessTrace
