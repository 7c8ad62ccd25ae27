import AccessTrace.Proofs.Store.Calls

namespace AccessTrace

def Access.startMark (access : Access) : Mark := ⟨access.start, access.id⟩

def Access.stopMark? (access : Access) : Option Mark := access.stop.map (⟨·, access.id⟩)

/-- The range is exact: its ends are addresses of accesses, and no address is outside of it. -/
def IsAddressRange (accesses : Ordered Access.id) : Option AddressRange → Prop
  | none => ∀ a, a ∉ accesses
  | some range =>
    (∃ a ∈ accesses, a.address = range.lowest) ∧ (∃ a ∈ accesses, a.address = range.highest) ∧
      ∀ a ∈ accesses, range.lowest ≤ a.address ∧ a.address ≤ range.highest

theorem isAddressRange_congr {s t : Ordered Access.id} {range : Option AddressRange}
    (h : ∀ x, (∃ a ∈ s, a.address = x) ↔ ∃ a ∈ t, a.address = x) :
    IsAddressRange s range ↔ IsAddressRange t range := by
  have all {p : Address → Prop} : (∀ a ∈ s, p a.address) ↔ ∀ a ∈ t, p a.address := by
    constructor
    · intro hs a ha
      obtain ⟨b, hb, heq⟩ := (h a.address).mpr ⟨a, ha, rfl⟩
      exact heq ▸ hs b hb
    · intro ht a ha
      obtain ⟨b, hb, heq⟩ := (h a.address).mp ⟨a, ha, rfl⟩
      exact heq ▸ ht b hb
  cases range with
  | none => exact all (p := fun _ => False)
  | some range =>
    exact and_congr (h _) (and_congr (h _)
      (all (p := fun x => range.lowest ≤ x ∧ x ≤ range.highest)))

theorem isAddressRange_unique {accesses : Ordered Access.id} {r s : Option AddressRange}
    (hr : IsAddressRange accesses r) (hs : IsAddressRange accesses s) : r = s := by
  cases r with
  | none =>
    cases s with
    | none => rfl
    | some s =>
      obtain ⟨a, ha, -⟩ := hs.1
      exact absurd ha (hr a)
  | some r =>
    obtain ⟨⟨a, ha, hlow⟩, ⟨b, hb, hhigh⟩, hin⟩ := hr
    cases s with
    | none => exact absurd ha (hs a)
    | some s =>
      obtain ⟨⟨c, hc, hlow'⟩, ⟨d, hd, hhigh'⟩, hin'⟩ := hs
      have low : r.lowest = s.lowest :=
        UInt64.le_antisymm (hlow' ▸ (hin c hc).1) (hlow ▸ (hin' a ha).1)
      have high : r.highest = s.highest :=
        UInt64.le_antisymm (hhigh ▸ (hin' b hb).2) (hhigh' ▸ (hin d hd).2)
      cases r
      cases s
      simp only at low high
      rw [low, high]

namespace Store

inductive Call where
  | insert (access : Access)
  | close (id : AccessId) (cycle : Cycle)
  | observe (cycle : Cycle)

def perform (store : Store) : Call → Store
  | .insert access => (store.insertIfNew access).2
  | .close id cycle => (store.close id cycle).2
  | .observe cycle => store.observe cycle

def performAll (store : Store) (calls : List Call) : Store :=
  calls.foldl perform store

/-- A store that there can be: some calls lead to it from the empty one. -/
def Reachable (store : Store) : Prop :=
  ∃ calls, performAll .empty calls = store

theorem reachable_empty : Reachable .empty := ⟨[], rfl⟩

theorem Reachable.perform {store : Store} (h : store.Reachable) (call : Call) :
    (store.perform call).Reachable := by
  obtain ⟨calls, rfl⟩ := h
  exact ⟨calls ++ [call], by simp [performAll]⟩

/-- The indices and the range of addresses say what the accesses say. -/
structure Indexed (store : Store) : Prop where
  byStart (mark : Mark) : mark ∈ store.byStart ↔ ∃ a ∈ store.accesses, a.startMark = mark
  byEnd (mark : Mark) : mark ∈ store.byEnd ↔ ∃ a ∈ store.accesses, a.stopMark? = some mark
  unended (id : AccessId) : id ∈ store.unended ↔ ∃ a ∈ store.accesses, a.isOpen ∧ a.id = id
  addresses : IsAddressRange store.accesses store.addresses

theorem indexed_empty : Indexed .empty where
  byStart mark := by simp [empty]
  byEnd mark := by simp [empty]
  unended id := by simp [empty]
  addresses a := Ordered.not_mem_empty

theorem Indexed.nodup_ends {store : Store} (h : store.Indexed) :
    (store.byEnd.toList.map Mark.id ++ store.unended.toList).Nodup := by
  refine List.nodup_append.mpr ⟨?_, store.unended.nodup_toList, ?_⟩
  · refine List.Nodup.map_on ?_ store.byEnd.nodup_toList
    intro m hm n hn hid
    obtain ⟨a, ha, hma⟩ := (h.byEnd m).mp hm
    obtain ⟨b, hb, hnb⟩ := (h.byEnd n).mp hn
    obtain ⟨last, hlast, rfl⟩ := Option.map_eq_some_iff.mp hma
    obtain ⟨last', hlast', rfl⟩ := Option.map_eq_some_iff.mp hnb
    obtain rfl := Ordered.eq_of_key_eq ha hb hid
    rw [Option.some.inj (hlast.symm.trans hlast')]
  · -- A closed access is not among the open ones.
    intro id hid _ hopen heq
    subst heq
    obtain ⟨mark, hmark, rfl⟩ := List.mem_map.mp hid
    obtain ⟨a, ha, hma⟩ := (h.byEnd mark).mp hmark
    obtain ⟨last, hlast, rfl⟩ := Option.map_eq_some_iff.mp hma
    obtain ⟨b, hb, ho, hid⟩ := (h.unended _).mp hopen
    obtain rfl := Ordered.eq_of_key_eq ha hb hid.symm
    rw [Access.isOpen, hlast] at ho
    cases ho

theorem Indexed.eq {s t : Store} (hs : s.Indexed) (ht : t.Indexed)
    (accesses : s.accesses = t.accesses) (horizon : s.horizon = t.horizon) : s = t := by
  have byStart : s.byStart = t.byStart :=
    Ordered.ext_mem fun mark => by rw [hs.byStart, ht.byStart, accesses]
  have byEnd : s.byEnd = t.byEnd :=
    Ordered.ext_mem fun mark => by rw [hs.byEnd, ht.byEnd, accesses]
  have unended : s.unended = t.unended :=
    Ordered.ext_mem fun id => by rw [hs.unended, ht.unended, accesses]
  have addresses : s.addresses = t.addresses :=
    isAddressRange_unique hs.addresses (accesses ▸ ht.addresses)
  cases s
  cases t
  simp_all

theorem ext_get? {s t : Store} (h : ∀ id, s.get? id = t.get? id) : s.accesses = t.accesses :=
  Ordered.ext_mem fun a => by
    constructor
    · intro ha
      exact (get?_eq_some_iff.mp ((h a.id).symm.trans (get?_of_mem ha))).1
    · intro ha
      exact (get?_eq_some_iff.mp ((h a.id).trans (get?_of_mem ha))).1

variable {store : Store} {access : Access}

theorem mem_add (new : store.get? access.id = none) (a : Access) :
    a ∈ (store.add access).accesses ↔ a = access ∨ a ∈ store.accesses := by
  refine Ordered.mem_put.trans (or_congr_right (and_iff_left_of_imp ?_))
  exact get?_eq_none_iff.mp new a

theorem mem_finish (access : Access) (cycle : Cycle) (a : Access) :
    a ∈ (store.finish access cycle).accesses ↔
      a = access.close cycle ∨ a ∈ store.accesses ∧ a.id ≠ access.id :=
  Ordered.mem_put

theorem isAddressRange_add (new : store.get? access.id = none)
    (h : IsAddressRange store.accesses store.addresses) :
    IsAddressRange (store.add access).accesses (store.add access).addresses := by
  simp only [add]
  cases hrange : store.addresses with
  | none =>
    rw [hrange] at h
    have only (a : Access) (ha : a ∈ (store.add access).accesses) : a = access :=
      ((mem_add new a).mp ha).resolve_right (h a)
    have self := (mem_add new access).mpr (.inl rfl)
    refine ⟨⟨access, self, rfl⟩, ⟨access, self, rfl⟩, fun a ha => ?_⟩
    rw [only a ha]
    exact ⟨UInt64.le_refl _, UInt64.le_refl _⟩
  | some range =>
    rw [hrange] at h
    obtain ⟨⟨low, hlow, hl⟩, ⟨high, hhigh, hh⟩, inside⟩ := h
    have self := (mem_add new access).mpr (.inl rfl)
    have old {a : Access} (ha : a ∈ store.accesses) := (mem_add new a).mpr (.inr ha)
    refine ⟨?_, ?_, fun a ha => ?_⟩
    · rcases Std.min_eq_or (a := range.lowest) (b := access.address) with hmin | hmin
      · exact ⟨low, old hlow, hl.trans hmin.symm⟩
      · exact ⟨access, self, hmin.symm⟩
    · rcases Std.max_eq_or (a := range.highest) (b := access.address) with hmax | hmax
      · exact ⟨high, old hhigh, hh.trans hmax.symm⟩
      · exact ⟨access, self, hmax.symm⟩
    · rcases (mem_add new a).mp ha with rfl | ha
      · exact ⟨Std.min_le_right, Std.right_le_max⟩
      · obtain ⟨above, below⟩ := inside a ha
        exact ⟨UInt64.le_trans Std.min_le_left above, UInt64.le_trans below Std.left_le_max⟩

theorem Indexed.add (h : store.Indexed) (new : store.get? access.id = none) :
    (store.add access).Indexed where
  byStart mark := by
    simp only [mem_add new, exists_eq_or_imp]
    refine Ordered.mem_put_self.trans (or_congr ?_ (h.byStart mark))
    exact eq_comm
  byEnd mark := by
    simp only [mem_add new, exists_eq_or_imp, ← h.byEnd mark]
    cases hstop : access.stop with
    | none => simp [Store.add, Access.stopMark?, hstop]
    | some last =>
      simp only [Store.add, Access.stopMark?, hstop, Option.map_some, Option.some.injEq]
      exact Ordered.mem_put_self.trans (or_congr_left eq_comm)
  unended id := by
    simp only [mem_add new, exists_eq_or_imp, ← h.unended id]
    cases hstop : access.stop with
    | none =>
      simp only [Store.add, Access.isOpen, hstop, Option.isNone_none, true_and]
      exact Ordered.mem_put_self.trans (or_congr_left eq_comm)
    | some last => simp [Store.add, Access.isOpen, hstop]
  addresses := isAddressRange_add new h.addresses

theorem Indexed.finish (h : store.Indexed) (known : access ∈ store.accesses)
    (opened : access.isOpen) (cycle : Cycle) : (store.finish access cycle).Indexed where
  byStart mark := by
    refine (h.byStart mark).trans ?_
    constructor
    · rintro ⟨a, ha, rfl⟩
      by_cases hid : a.id = access.id
      · have same := Ordered.eq_of_key_eq ha known hid
        exact ⟨access.close cycle, (mem_finish ..).mpr (.inl rfl), same ▸ rfl⟩
      · exact ⟨a, (mem_finish ..).mpr (.inr ⟨ha, hid⟩), rfl⟩
    · rintro ⟨a, ha, rfl⟩
      rcases (mem_finish ..).mp ha with rfl | ⟨ha, -⟩
      · exact ⟨access, known, rfl⟩
      · exact ⟨a, ha, rfl⟩
  byEnd mark := by
    refine Ordered.mem_put_self.trans ?_
    rw [h.byEnd]
    constructor
    · rintro (rfl | ⟨a, ha, hmark⟩)
      · exact ⟨access.close cycle, (mem_finish ..).mpr (.inl rfl), rfl⟩
      · refine ⟨a, (mem_finish ..).mpr (.inr ⟨ha, fun hid => ?_⟩), hmark⟩
        have same := Ordered.eq_of_key_eq ha known hid
        rw [same, Access.stopMark?, Option.isNone_iff_eq_none.mp opened] at hmark
        cases hmark
    · rintro ⟨a, ha, hmark⟩
      rcases (mem_finish ..).mp ha with rfl | ⟨ha, -⟩
      · exact .inl (Option.some.inj hmark).symm
      · exact .inr ⟨a, ha, hmark⟩
  unended id := by
    refine Ordered.mem_erase.trans ?_
    rw [h.unended]
    constructor
    · rintro ⟨⟨a, ha, hopen, rfl⟩, hid⟩
      exact ⟨a, (mem_finish ..).mpr (.inr ⟨ha, hid⟩), hopen, rfl⟩
    · rintro ⟨a, ha, hopen, rfl⟩
      rcases (mem_finish ..).mp ha with rfl | ⟨ha, hid⟩
      · cases hopen
      · exact ⟨⟨a, ha, hopen, rfl⟩, hid⟩
  addresses := by
    have same (x : Address) : (∃ a ∈ (store.finish access cycle).accesses, a.address = x) ↔
        ∃ a ∈ store.accesses, a.address = x := by
      constructor
      · rintro ⟨a, ha, rfl⟩
        rcases (mem_finish ..).mp ha with rfl | ⟨ha, -⟩
        · exact ⟨access, known, rfl⟩
        · exact ⟨a, ha, rfl⟩
      · rintro ⟨a, ha, rfl⟩
        by_cases hid : a.id = access.id
        · have same := Ordered.eq_of_key_eq ha known hid
          exact ⟨access.close cycle, (mem_finish ..).mpr (.inl rfl), same ▸ rfl⟩
        · exact ⟨a, (mem_finish ..).mpr (.inr ⟨ha, hid⟩), rfl⟩
    exact (isAddressRange_congr same).mpr h.addresses

theorem Indexed.perform (h : store.Indexed) (call : Call) : (store.perform call).Indexed := by
  cases call with
  | insert access =>
    cases hget : store.get? access.id with
    | some old => simpa only [Store.perform, insertIfNew_of_taken hget] using h
    | none => simpa only [Store.perform, insertIfNew_of_new hget] using h.add hget
  | close id cycle =>
    cases hget : store.get? id with
    | none => simpa only [Store.perform, close_of_unknown hget] using h
    | some access =>
      cases hopen : access.isOpen with
      | false => simpa only [Store.perform, close_of_closed hget hopen] using h
      | true =>
        have known := (get?_eq_some_iff.mp hget).1
        simpa only [Store.perform, close_of_open hget hopen] using h.finish known hopen cycle
  | observe cycle => exact ⟨h.byStart, h.byEnd, h.unended, h.addresses⟩

theorem Indexed.performAll (h : store.Indexed) (calls : List Call) :
    (store.performAll calls).Indexed := by
  induction calls generalizing store with
  | nil => exact h
  | cons call rest ih => exact ih (h.perform call)

theorem Reachable.indexed (h : store.Reachable) : store.Indexed := by
  obtain ⟨calls, rfl⟩ := h
  exact indexed_empty.performAll calls

end Store

end AccessTrace
