import AccessTrace.Ordered
import Mathlib.Data.List.Nodup
import Mathlib.Data.List.Perm.Basic

namespace AccessTrace

theorem max_of_le {a b : UInt64} (h : a ≤ b) : max a b = b := if_pos h

theorem max_of_ge {a b : UInt64} (h : b ≤ a) : max a b = a := by
  by_cases hab : a ≤ b
  · rw [max_of_le hab, UInt64.le_antisymm hab h]
  · exact if_neg hab

instance instLawfulMaxCycle : Std.LawfulOrderLeftLeaningMax UInt64 where
  max_eq_left _ _ h := max_of_ge h
  max_eq_right _ _ h := max_of_le ((UInt64.le_total _ _).resolve_right h)

theorem StrictOrder.asymm {κ : Type} [StrictOrder κ] {a b : κ} (h : a < b) : ¬ b < a :=
  fun h' => StrictOrder.irrefl a (StrictOrder.trans h h')

namespace Ordered

variable {α κ : Type} [StrictOrder κ] {key : α → κ} {s t : Ordered key} {a b : α} {k : κ}

theorem mem_iff : a ∈ s ↔ a ∈ s.toList := Iff.rfl

theorem nodup_keys (s : Ordered key) : (s.toList.map key).Nodup := by
  refine List.pairwise_map.mpr (s.sorted.imp ?_)
  intro a b hab heq
  exact StrictOrder.irrefl (key b) (by simpa only [heq] using hab)

theorem nodup_toList (s : Ordered key) : s.toList.Nodup := s.nodup_keys.of_map

theorem eq_of_key_eq (ha : a ∈ s) (hb : b ∈ s) (h : key a = key b) : a = b :=
  List.inj_on_of_nodup_map s.nodup_keys ha hb h

theorem size_eq_length {ks : List κ} (nodup : ks.Nodup) (keys : ∀ k, k ∈ ks ↔ ∃ a ∈ s, key a = k) :
    s.size = ks.length := by
  have same : (s.toList.map key).Perm ks := by
    rw [List.perm_ext_iff_of_nodup s.nodup_keys nodup]
    intro k
    rw [List.mem_map, keys]
    exact Iff.rfl
  rw [size, ← List.length_map key, same.length_eq]

theorem ext_mem (h : ∀ a, a ∈ s ↔ a ∈ t) : s = t := by
  have same : s.toList.Perm t.toList :=
    (List.perm_ext_iff_of_nodup s.nodup_toList t.nodup_toList).mpr h
  refine ext (same.eq_of_pairwise ?_ s.sorted t.sorted)
  intro a b _ _ hab hba
  exact absurd hba (StrictOrder.asymm hab)

@[simp] theorem not_mem_empty : a ∉ (empty : Ordered key) := List.not_mem_nil

theorem mem_putList_iff {l : List α} (h : l.Pairwise fun a b => key a < key b) :
    b ∈ putList key a l ↔ b = a ∨ b ∈ l ∧ key b ≠ key a := by
  induction l with
  | nil => simp [putList]
  | cons c rest ih =>
    obtain ⟨hc, hrest⟩ := List.pairwise_cons.mp h
    rw [putList]
    split
    · next hac =>
      -- The item goes before all others, whose keys are above its own.
      have apart : ∀ d ∈ c :: rest, key d ≠ key a := by
        intro d hd heq
        rcases List.mem_cons.mp hd with rfl | hd
        · exact StrictOrder.irrefl _ (heq ▸ hac)
        · exact StrictOrder.asymm hac (heq ▸ hc d hd)
      constructor
      · intro hb
        rcases List.mem_cons.mp hb with hb | hb
        · exact .inl hb
        · exact .inr ⟨hb, apart b hb⟩
      · rintro (rfl | ⟨hb, -⟩)
        · exact List.mem_cons_self
        · exact List.mem_cons_of_mem _ hb
    · next hac =>
      split
      · next hca =>
        have hne : key c ≠ key a := fun heq => StrictOrder.irrefl _ (heq ▸ hca)
        simp only [List.mem_cons, ih hrest]
        constructor
        · rintro (rfl | rfl | ⟨hb, hkey⟩)
          · exact .inr ⟨.inl rfl, hne⟩
          · exact .inl rfl
          · exact .inr ⟨.inr hb, hkey⟩
        · rintro (rfl | ⟨rfl | hb, hkey⟩)
          · exact .inr (.inl rfl)
          · exact .inl rfl
          · exact .inr (.inr ⟨hb, hkey⟩)
      · next hca =>
        have heq : key a = key c := by
          rcases StrictOrder.trichotomy (key a) (key c) with h | h | h
          · exact absurd h hac
          · exact h
          · exact absurd h hca
        have apart : ∀ d ∈ rest, key d ≠ key a := fun d hd hda =>
          StrictOrder.irrefl (key c) (by simpa [hda, heq] using hc d hd)
        simp only [List.mem_cons]
        constructor
        · rintro (rfl | hb)
          · exact .inl rfl
          · exact .inr ⟨.inr hb, apart b hb⟩
        · rintro (rfl | ⟨rfl | hb, hkey⟩)
          · exact .inl rfl
          · exact absurd heq.symm hkey
          · exact .inr hb

theorem mem_put : b ∈ s.put a ↔ b = a ∨ b ∈ s ∧ key b ≠ key a :=
  mem_putList_iff s.sorted

theorem mem_erase [DecidableEq κ] : a ∈ s.erase k ↔ a ∈ s ∧ key a ≠ k := by
  simp [mem_iff, erase]

theorem mem_put_self {s : Ordered (id : κ → κ)} {a b : κ} : b ∈ s.put a ↔ b = a ∨ b ∈ s := by
  rw [mem_put]
  by_cases h : b = a
  · simp [h]
  · simp [h]

theorem find?_eq_some_iff [DecidableEq κ] : s.find? k = some a ↔ a ∈ s ∧ key a = k := by
  constructor
  · intro h
    exact ⟨List.mem_of_find?_eq_some h, by simpa using List.find?_some h⟩
  · rintro ⟨ha, rfl⟩
    cases h : s.find? (key a) with
    | none => simpa using List.find?_eq_none.mp h a ha
    | some b =>
      have hkey : key b = key a := by simpa using List.find?_some h
      rw [eq_of_key_eq (List.mem_of_find?_eq_some h) ha hkey]

theorem find?_eq_none_iff [DecidableEq κ] : s.find? k = none ↔ ∀ a ∈ s, key a ≠ k := by
  simp [find?, mem_iff]

theorem find?_put [DecidableEq κ] :
    (s.put a).find? k = if k = key a then some a else s.find? k := by
  split
  · next h => exact find?_eq_some_iff.mpr ⟨mem_put.mpr (.inl rfl), h.symm⟩
  · next h =>
    cases hfound : s.find? k with
    | none =>
      refine find?_eq_none_iff.mpr fun b hb hkey => ?_
      rcases mem_put.mp hb with rfl | ⟨hb, -⟩
      · exact h hkey.symm
      · exact find?_eq_none_iff.mp hfound b hb hkey
    | some b =>
      obtain ⟨hb, rfl⟩ := find?_eq_some_iff.mp hfound
      exact find?_eq_some_iff.mpr ⟨mem_put.mpr (.inr ⟨hb, h⟩), rfl⟩

theorem mem_takeWhile_key_lt {l : List α} (h : l.Pairwise fun a b => key a < key b) :
    a ∈ l.takeWhile (fun a => key a < k) ↔ a ∈ l ∧ key a < k := by
  induction l with
  | nil => simp
  | cons c rest ih =>
    obtain ⟨hc, hrest⟩ := List.pairwise_cons.mp h
    by_cases hck : key c < k
    · simp only [List.takeWhile_cons, hck, decide_true, if_true, List.mem_cons, ih hrest]
      constructor
      · rintro (rfl | ⟨ha, hlt⟩)
        · exact ⟨.inl rfl, hck⟩
        · exact ⟨.inr ha, hlt⟩
      · rintro ⟨rfl | ha, hlt⟩
        · exact .inl rfl
        · exact .inr ⟨ha, hlt⟩
    · simp only [List.takeWhile_cons, hck, decide_false, Bool.false_eq_true, if_false]
      refine ⟨fun h => absurd h List.not_mem_nil, ?_⟩
      rintro ⟨ha, hlt⟩
      rcases List.mem_cons.mp ha with rfl | ha
      · exact absurd hlt hck
      · exact absurd (StrictOrder.trans (hc a ha) hlt) hck

theorem mem_dropWhile_key_le {l : List α} (h : l.Pairwise fun a b => key a < key b) :
    a ∈ l.dropWhile (fun a => ¬ k < key a) ↔ a ∈ l ∧ k < key a := by
  induction l with
  | nil => simp
  | cons c rest ih =>
    obtain ⟨hc, hrest⟩ := List.pairwise_cons.mp h
    by_cases hkc : k < key c
    · simp only [List.dropWhile_cons, hkc, not_true, decide_false, Bool.false_eq_true, if_false]
      refine ⟨fun ha => ⟨ha, ?_⟩, And.left⟩
      rcases List.mem_cons.mp ha with rfl | ha
      · exact hkc
      · exact StrictOrder.trans hkc (hc a ha)
    · simp only [List.dropWhile_cons, hkc, not_false_eq_true, decide_true, if_true, List.mem_cons,
        ih hrest]
      constructor
      · rintro ⟨ha, hlt⟩
        exact ⟨.inr ha, hlt⟩
      · rintro ⟨rfl | ha, hlt⟩
        · exact absurd hlt hkc
        · exact ⟨ha, hlt⟩

theorem mem_below : a ∈ s.below k ↔ a ∈ s ∧ key a < k :=
  mem_takeWhile_key_lt s.sorted

theorem mem_above : a ∈ s.above k ↔ a ∈ s ∧ k < key a :=
  mem_dropWhile_key_le s.sorted

theorem below_sublist (s : Ordered key) (k : κ) : (s.below k).Sublist s.toList :=
  List.takeWhile_sublist _

theorem above_sublist (s : Ordered key) (k : κ) : (s.above k).Sublist s.toList :=
  List.dropWhile_sublist _

theorem last?_eq_none_iff : s.last? = none ↔ ∀ a, a ∉ s := by
  rw [last?, List.getLast?_eq_none_iff, List.eq_nil_iff_forall_not_mem]
  exact Iff.rfl

theorem eq_or_lt_of_last? (h : s.last? = some a) (hb : b ∈ s) : b = a ∨ key b < key a := by
  obtain ⟨front, hfront⟩ := List.getLast?_eq_some_iff.mp h
  have sorted := hfront ▸ s.sorted
  rcases List.mem_append.mp (hfront ▸ hb : b ∈ front ++ [a]) with hb | hb
  · exact .inr ((List.pairwise_append.mp sorted).2.2 b hb a List.mem_cons_self)
  · exact .inl (List.mem_singleton.mp hb)

theorem mem_of_last? (h : s.last? = some a) : a ∈ s :=
  List.mem_of_getLast? h

end Ordered

end AccessTrace
