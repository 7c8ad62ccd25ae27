import AccessTrace.Proofs.Store.Indices
import AccessTrace.Store.Window

namespace AccessTrace

theorem toNat_monus (a b : Cycle) : (monus a b).toNat = a.toNat - b.toNat := by
  unfold monus
  split
  · next h =>
    have : a.toNat < b.toNat := UInt64.lt_iff_toNat_lt.mp h
    rw [UInt64.toNat_zero]
    omega
  · next h => exact UInt64.toNat_sub_of_le _ _ (UInt64.not_lt.mp h)

theorem monus_lt {size upper first : Cycle} (positive : 0 < size) (before : first < upper) :
    monus upper size < upper := by
  have sizeable := UInt64.lt_iff_toNat_lt.mp positive
  have above := UInt64.lt_iff_toNat_lt.mp before
  have lower := toNat_monus upper size
  rw [UInt64.toNat_zero] at sizeable
  rw [UInt64.lt_iff_toNat_lt]
  omega

/-- The access is in flight between the two cycles and passes the filter. -/
def Access.isShown (lower upper : Cycle) (filter : KindFilter) (access : Access) : Bool :=
  access.start < upper && (access.isOpen || access.stop.any (lower < ·)) &&
    filter.accepts access.kind

theorem Access.overlaps_and_accepts (access : Access) (lower upper : Cycle)
    (filter : KindFilter) :
    (access.overlaps lower upper && filter.accepts access.kind) =
      access.isShown lower upper filter := by
  unfold overlaps isShown isOpen
  cases access.stop <;> simp [Bool.and_comm]

theorem Mark.lt_first_iff {mark : Mark} {cycle : Cycle} :
    mark < ⟨cycle, ⟨0⟩⟩ ↔ mark.cycle < cycle := by
  constructor
  · rintro (h | ⟨-, h⟩)
    · exact h
    · exact absurd (UInt64.lt_iff_toNat_lt.mp h) (Nat.not_lt_zero _)
  · exact .inl

theorem Mark.last_lt_iff {mark : Mark} {cycle : Cycle} :
    (⟨cycle, ⟨0xFFFFFFFFFFFFFFFF⟩⟩ : Mark) < mark ↔ cycle < mark.cycle := by
  constructor
  · rintro (h | ⟨-, h⟩)
    · exact h
    · have above : 0xFFFFFFFFFFFFFFFF < mark.id.number.toNat := UInt64.lt_iff_toNat_lt.mp h
      have below := mark.id.number.toNat_lt
      omega
  · exact .inl

namespace Store

variable {store : Store}

def scan (store : Store) (lower upper : Cycle) (filter : KindFilter) : List Address :=
  (store.toList.filter (Access.isShown lower upper filter)).map Access.address

theorem mem_startedBefore (indexed : store.Indexed) {upper : Cycle} {id : AccessId} :
    id ∈ store.startedBefore upper ↔ ∃ a ∈ store.accesses, a.start < upper ∧ a.id = id := by
  simp only [startedBefore, List.mem_map, Ordered.mem_below, indexed.byStart, id_eq,
    Mark.lt_first_iff]
  constructor
  · rintro ⟨_, ⟨⟨a, ha, rfl⟩, hlt⟩, rfl⟩
    exact ⟨a, ha, hlt, rfl⟩
  · rintro ⟨a, ha, hlt, rfl⟩
    exact ⟨a.startMark, ⟨⟨a, ha, rfl⟩, hlt⟩, rfl⟩

theorem mem_unendedAfter (indexed : store.Indexed) {lower : Cycle} {id : AccessId} :
    id ∈ store.unendedAfter lower ↔
      ∃ a ∈ store.accesses, (a.isOpen || a.stop.any (lower < ·)) ∧ a.id = id := by
  simp only [unendedAfter, List.mem_append, List.mem_map, Ordered.mem_above, indexed.byEnd, id_eq,
    Mark.last_lt_iff, Bool.or_eq_true]
  constructor
  · rintro (⟨mark, ⟨⟨a, ha, hmark⟩, hlt⟩, rfl⟩ | hopen)
    · obtain ⟨last, hlast, rfl⟩ := Option.map_eq_some_iff.mp hmark
      exact ⟨a, ha, .inr (by simpa [hlast] using hlt), rfl⟩
    · obtain ⟨a, ha, ho, rfl⟩ := (indexed.unended id).mp hopen
      exact ⟨a, ha, .inl ho, rfl⟩
  · rintro ⟨a, ha, ho | hlt, rfl⟩
    · exact .inr ((indexed.unended a.id).mpr ⟨a, ha, ho, rfl⟩)
    · obtain ⟨last, hlast, hlt⟩ := (Option.any_eq_true _ _).mp hlt
      refine .inl ⟨⟨last, a.id⟩, ⟨⟨a, ha, ?_⟩, by simpa using hlt⟩, rfl⟩
      rw [Access.stopMark?, hlast]
      rfl

theorem nodup_startedBefore (indexed : store.Indexed) (upper : Cycle) :
    (store.startedBefore upper).Nodup := by
  refine List.Nodup.map_on ?_ (store.byStart.nodup_toList.sublist (Ordered.below_sublist ..))
  intro m hm n hn hid
  obtain ⟨a, ha, rfl⟩ := (indexed.byStart m).mp (Ordered.mem_below.mp hm).1
  obtain ⟨b, hb, rfl⟩ := (indexed.byStart n).mp (Ordered.mem_below.mp hn).1
  rw [Ordered.eq_of_key_eq ha hb hid]

theorem nodup_unendedAfter (indexed : store.Indexed) (lower : Cycle) :
    (store.unendedAfter lower).Nodup :=
  indexed.nodup_ends.sublist (((Ordered.above_sublist ..).map _).append_right _)

theorem filterMap_get?_perm {ids : List AccessId} (nodup : ids.Nodup) {p : Access → Bool}
    (complete : ∀ a ∈ store.accesses, p a → a.id ∈ ids) :
    ((ids.filterMap store.get?).filter p).Perm (store.toList.filter p) := by
  have nodup_found : (ids.filterMap store.get?).Nodup :=
    nodup.filterMap fun i j a hi hj =>
      (get?_eq_some_iff.mp hi).2.symm.trans (get?_eq_some_iff.mp hj).2
  refine (List.perm_ext_iff_of_nodup (nodup_found.filter p)
    (store.accesses.nodup_toList.filter p)).mpr fun a => ?_
  simp only [List.mem_filter, List.mem_filterMap]
  constructor
  · rintro ⟨⟨id, -, hget⟩, hp⟩
    exact ⟨(get?_eq_some_iff.mp hget).1, hp⟩
  · rintro ⟨ha, hp⟩
    exact ⟨⟨a.id, complete a ha hp, get?_of_mem ha⟩, hp⟩

def walk (store : Store) (ids : List AccessId) (lower upper : Cycle) (filter : KindFilter) :
    List Address :=
  ((ids.filterMap store.get?).filter fun access =>
    access.overlaps lower upper && filter.accepts access.kind).map Access.address

theorem walk_startedBefore_perm (indexed : store.Indexed) (lower upper : Cycle)
    (filter : KindFilter) :
    (store.walk (store.startedBefore upper) lower upper filter).Perm
      (store.scan lower upper filter) := by
  simp only [walk, scan, Access.overlaps_and_accepts]
  refine (filterMap_get?_perm (nodup_startedBefore indexed upper) fun a ha hp => ?_).map _
  simp only [Access.isShown, Bool.and_eq_true, decide_eq_true_eq] at hp
  exact (mem_startedBefore indexed).mpr ⟨a, ha, hp.1.1, rfl⟩

theorem walk_unendedAfter_perm (indexed : store.Indexed) (lower upper : Cycle)
    (filter : KindFilter) :
    (store.walk (store.unendedAfter lower) lower upper filter).Perm
      (store.scan lower upper filter) := by
  simp only [walk, scan, Access.overlaps_and_accepts]
  refine (filterMap_get?_perm (nodup_unendedAfter indexed lower) fun a ha hp => ?_).map _
  simp only [Access.isShown, Bool.and_eq_true] at hp
  exact (mem_unendedAfter indexed).mpr ⟨a, ha, hp.1.2, rfl⟩

theorem bounds_eq_none_iff (indexed : store.Indexed) : store.bounds = none ↔ store.isEmpty := by
  rw [isEmpty_iff]
  have range := indexed.addresses
  cases haddr : store.addresses with
  | none =>
    rw [haddr] at range
    simp only [bounds, haddr, Option.bind_eq_bind, Option.bind_none, true_iff]
    exact range
  | some r =>
    rw [haddr] at range
    obtain ⟨⟨a, ha, -⟩, -⟩ := range
    have hstart : store.byStart.last? ≠ none := by
      intro hnone
      exact Ordered.last?_eq_none_iff.mp hnone a.startMark
        ((indexed.byStart _).mpr ⟨a, ha, rfl⟩)
    obtain ⟨mark, hmark⟩ := Option.ne_none_iff_exists'.mp hstart
    simp only [bounds, haddr, hmark, Option.bind_eq_bind, Option.bind_some, Option.map_some]
    constructor
    · intro hnone
      cases hend : store.byEnd.last? <;> simp [hend, latest] at hnone
    · intro hempty
      exact absurd ha (hempty a)

theorem latest_le {a b : Option Cycle} {bound last : Cycle} (known : latest a b = some last)
    (left : ∀ c, a = some c → c ≤ bound) (right : ∀ c, b = some c → c ≤ bound) :
    last ≤ bound := by
  cases a with
  | none => exact right last known
  | some c =>
    cases b with
    | none => exact left last known
    | some d =>
      obtain rfl := Option.some.inj known
      have either : max c d = c ∨ max c d = d := Std.max_eq_or
      rcases either with h | h
      · rw [h]
        exact left c rfl
      · rw [h]
        exact right d rfl

theorem maxCycle_le (indexed : store.Indexed) {bounds : Bounds}
    (known : store.bounds = some bounds) {bound : Cycle}
    (within : ∀ a ∈ store.accesses, a.start ≤ bound ∧ ∀ last, a.stop = some last → last ≤ bound) :
    bounds.maxCycle ≤ bound := by
  simp only [Store.bounds, Option.bind_eq_bind, Option.bind_eq_some_iff] at known
  obtain ⟨range, -, last, found, made⟩ := known
  cases made
  refine latest_le found ?_ ?_
  · intro c ends
    obtain ⟨mark, member, rfl⟩ := Option.map_eq_some_iff.mp ends
    obtain ⟨a, ha, closed⟩ := (indexed.byEnd mark).mp (Ordered.mem_of_last? member)
    obtain ⟨last, stop, rfl⟩ := Option.map_eq_some_iff.mp closed
    exact (within a ha).2 last stop
  · intro c starts
    obtain ⟨mark, member, rfl⟩ := Option.map_eq_some_iff.mp starts
    obtain ⟨a, ha, rfl⟩ := (indexed.byStart mark).mp (Ordered.mem_of_last? member)
    exact (within a ha).1

theorem le_latest {a b : Option Cycle} {last : Cycle} (known : latest a b = some last) :
    (∀ c, a = some c → c ≤ last) ∧ ∀ c, b = some c → c ≤ last := by
  cases a with
  | none =>
    constructor
    · intro c impossible
      cases impossible
    · intro c found
      exact UInt64.le_of_eq (Option.some.inj (found.symm.trans known))
  | some first =>
    cases b with
    | none =>
      constructor
      · intro c found
        exact UInt64.le_of_eq (Option.some.inj (found.symm.trans known))
      · intro c impossible
        cases impossible
    | some second =>
      obtain rfl := Option.some.inj known
      constructor
      · rintro c ⟨⟩
        exact Std.left_le_max
      · rintro c ⟨⟩
        exact Std.right_le_max

theorem cycle_le_of_last? {marks : Ordered (id : Mark → Mark)} {mark : Mark} (member : mark ∈ marks) :
    ∃ last, marks.last?.map Mark.cycle = some last ∧ mark.cycle ≤ last := by
  cases found : marks.last? with
  | none => exact absurd member (Ordered.last?_eq_none_iff.mp found mark)
  | some final =>
    refine ⟨final.cycle, rfl, ?_⟩
    rcases Ordered.eq_or_lt_of_last? found member with rfl | before | ⟨same, -⟩
    · exact UInt64.le_refl _
    · exact UInt64.le_of_lt before
    · exact UInt64.le_of_eq same

theorem within_maxCycle (indexed : store.Indexed) {bounds : Bounds}
    (known : store.bounds = some bounds) {a : Access} (member : a ∈ store.accesses) :
    a.start ≤ bounds.maxCycle ∧ ∀ last, a.stop = some last → last ≤ bounds.maxCycle := by
  simp only [Store.bounds, Option.bind_eq_bind, Option.bind_eq_some_iff] at known
  obtain ⟨range, -, final, found, made⟩ := known
  cases made
  obtain ⟨ends_by, starts_by⟩ := le_latest found
  constructor
  · obtain ⟨last, is_last, le⟩ := cycle_le_of_last? ((indexed.byStart _).mpr ⟨a, member, rfl⟩)
    exact UInt64.le_trans le (starts_by last is_last)
  · intro stop ends
    have mark : a.stopMark? = some ⟨stop, a.id⟩ := by rw [Access.stopMark?, ends, Option.map_some]
    obtain ⟨last, is_last, le⟩ := cycle_le_of_last? ((indexed.byEnd _).mpr ⟨a, member, mark⟩)
    exact UInt64.le_trans le (ends_by last is_last)

/-- What the answer to a query has to be. -/
structure IsWindow (store : Store) (upper size : Cycle) (filter : KindFilter) (window : Window) :
    Prop where
  lower_eq : window.lowerCycle.toNat = upper.toNat - size.toNat
  upper_eq : window.upperCycle = upper
  filter_eq : window.filter = filter
  addresses_perm : window.addresses.Perm (store.scan window.lowerCycle upper filter)

theorem window?_of_bounds {bounds : Bounds} (known : store.bounds = some bounds) {upper : Cycle}
    (reached : ¬ bounds.maxCycle < upper) (size : Cycle) (filter : KindFilter) :
    store.window? upper size filter = some
      { lowerCycle := monus upper size, upperCycle := upper, filter
        addresses := store.walk (store.candidates (monus upper size) upper bounds.maxCycle)
          (monus upper size) upper filter } := by
  simp only [window?, known, Option.bind_eq_bind, Option.bind_some, if_neg reached, walk]
  rfl

theorem window?_eq_some_iff {upper size : Cycle} {filter : KindFilter} {window : Window} :
    store.window? upper size filter = some window ↔
      ∃ bounds, store.bounds = some bounds ∧ upper ≤ bounds.maxCycle ∧
        window =
          { lowerCycle := monus upper size, upperCycle := upper, filter
            addresses := store.walk (store.candidates (monus upper size) upper bounds.maxCycle)
              (monus upper size) upper filter } := by
  cases known : store.bounds with
  | none => simp [window?, known]
  | some bounds =>
    by_cases past : bounds.maxCycle < upper
    · have unreached : ¬ upper ≤ bounds.maxCycle := UInt64.not_le.mpr past
      simp [window?, known, past, unreached]
    · have reached := UInt64.not_lt.mp past
      rw [window?_of_bounds known past]
      simp [reached, eq_comm]

theorem walk_candidates_perm (indexed : store.Indexed) (lower upper maxCycle : Cycle)
    (filter : KindFilter) :
    (store.walk (store.candidates lower upper maxCycle) lower upper filter).Perm
      (store.scan lower upper filter) := by
  unfold candidates
  split
  · exact walk_startedBefore_perm indexed lower upper filter
  · exact walk_unendedAfter_perm indexed lower upper filter

theorem monus_le_max {bounds : Bounds} {upper : Cycle} (reached : ¬ bounds.maxCycle < upper)
    (size : Cycle) : monus upper size ≤ bounds.maxCycle := by
  have h := UInt64.le_iff_toNat_le.mp (UInt64.not_lt.mp reached)
  have hlower := toNat_monus upper size
  exact UInt64.le_iff_toNat_le.mpr (by omega)

/-- Walking the accesses by their starts or by their ends finds the same, each access once, and no
mark is of an access that is not there. -/
structure WalksAgree (store : Store) (lower upper : Cycle) (filter : KindFilter) : Prop where
  starts_known : ∀ id ∈ store.startedBefore upper, (store.get? id).isSome
  ends_known : ∀ id ∈ store.unendedAfter lower, (store.get? id).isSome
  starts : (store.walk (store.startedBefore upper) lower upper filter).Perm
    (store.scan lower upper filter)
  ends : (store.walk (store.unendedAfter lower) lower upper filter).Perm
    (store.scan lower upper filter)

theorem walksAgree (indexed : store.Indexed) (lower upper : Cycle) (filter : KindFilter) :
    store.WalksAgree lower upper filter where
  starts_known id hid := by
    obtain ⟨a, ha, -, rfl⟩ := (mem_startedBefore indexed).mp hid
    simp [get?_of_mem ha]
  ends_known id hid := by
    obtain ⟨a, ha, -, rfl⟩ := (mem_unendedAfter indexed).mp hid
    simp [get?_of_mem ha]
  starts := walk_startedBefore_perm indexed lower upper filter
  ends := walk_unendedAfter_perm indexed lower upper filter

/-- A query has no answer if there are no accesses or the window is past the last cycle. Any other
answer shows what a scan of all accesses shows; the index that is walked does not matter, and the
cycles from the start of the window to the last one can be counted. -/
theorem window?_shows_scan (reachable : store.Reachable) (upper size : Cycle)
    (filter : KindFilter) :
    (store.window? upper size filter = none ↔
      store.isEmpty ∨ ∃ bounds, store.bounds = some bounds ∧ bounds.maxCycle < upper) ∧
    (∀ window, store.window? upper size filter = some window →
      store.IsWindow upper size filter window) ∧
    (∀ lower, store.WalksAgree lower upper filter) ∧
    ∀ bounds, store.bounds = some bounds → ¬ bounds.maxCycle < upper →
      monus upper size ≤ bounds.maxCycle := by
  have indexed := reachable.indexed
  have agree := walksAgree indexed
  refine ⟨?_, ?_, fun lower => agree lower upper filter, fun bounds _ reached =>
    monus_le_max reached size⟩
  · rw [← bounds_eq_none_iff indexed]
    cases hbounds : store.bounds with
    | none => simp [window?, hbounds]
    | some bounds =>
      by_cases past : bounds.maxCycle < upper
      · simp [window?, hbounds, past]
      · simp [window?_of_bounds hbounds past, past]
  · intro window hwindow
    cases hbounds : store.bounds with
    | none => simp [window?, hbounds] at hwindow
    | some bounds =>
      by_cases past : bounds.maxCycle < upper
      · simp [window?, hbounds, past] at hwindow
      · rw [window?_of_bounds hbounds past] at hwindow
        cases hwindow
        refine ⟨toNat_monus upper size, rfl, rfl, ?_⟩
        simp only [candidates]
        split
        · exact (agree ..).starts
        · exact (agree ..).ends

/-- Accesses of all sorts: one that ends when the window starts, one that ends before it starts, one
that starts when the window ends, open ones, and a second one of a taken id. -/
def assorted : List Call :=
  [.insert ⟨⟨1⟩, .load, 0x10, 0, some 100⟩, .insert ⟨⟨2⟩, .load, 0x20, 50, none⟩,
    .insert ⟨⟨3⟩, .store, 0x30, 150, some 20⟩, .insert ⟨⟨4⟩, .store, 0x40, 200, some 300⟩,
    .insert ⟨⟨0xFFFFFFFFFFFFFFFF⟩, .load, 0x50, 199, none⟩, .insert ⟨⟨2⟩, .store, 0x60, 0, none⟩,
    .close ⟨2⟩ 101, .close ⟨2⟩ 5, .insert ⟨⟨0⟩, .load, 0x70, 200, none⟩, .observe 900]

theorem window?_shows_scan_assorted :
    (performAll .empty assorted).Reachable ∧
    ∃ window, (performAll .empty assorted).window? 200 100 .load = some window ∧
      window.lowerCycle.toNat = 100 ∧ window.addresses.Perm [0x50, 0x20] := by
  refine ⟨⟨assorted, rfl⟩, ?_⟩
  obtain ⟨-, answers, -⟩ := window?_shows_scan ⟨assorted, rfl⟩ 200 100 .load
  have found : ∃ window, (performAll .empty assorted).window? 200 100 .load = some window := by
    refine Option.ne_none_iff_exists'.mp ?_
    decide
  obtain ⟨window, hwindow⟩ := found
  have answer := answers window hwindow
  have lower : window.lowerCycle = 100 := UInt64.toNat_inj.mp answer.lower_eq
  refine ⟨window, hwindow, answer.lower_eq, answer.addresses_perm.trans ?_⟩
  rw [lower]
  decide

end Store

end AccessTrace
