/-!
Items kept in the order of their keys, at most one for each key. The list of the items is the whole
of it, so two such collections with the same items are equal.
-/

namespace AccessTrace

class StrictOrder (κ : Type) extends LT κ where
  decidableLT : (a b : κ) → Decidable (a < b)
  irrefl (a : κ) : ¬ a < a
  trans {a b c : κ} : a < b → b < c → a < c
  trichotomy (a b : κ) : a < b ∨ a = b ∨ b < a

@[inline] instance StrictOrder.decidable {κ : Type} [StrictOrder κ] (a b : κ) : Decidable (a < b) :=
  StrictOrder.decidableLT a b

instance : StrictOrder UInt64 where
  decidableLT := inferInstance
  irrefl := UInt64.lt_irrefl
  trans := UInt64.lt_trans
  trichotomy a b := by
    rcases Nat.lt_trichotomy a.toNat b.toNat with h | h | h
    · exact .inl (UInt64.lt_iff_toNat_lt.mpr h)
    · exact .inr (.inl (UInt64.toNat_inj.mp h))
    · exact .inr (.inr (UInt64.lt_iff_toNat_lt.mpr h))

structure Ordered {α κ : Type} [StrictOrder κ] (key : α → κ) where
  toList : List α
  sorted : toList.Pairwise fun a b => key a < key b

namespace Ordered

variable {α κ : Type} [StrictOrder κ] {key : α → κ}

theorem ext {s t : Ordered key} (h : s.toList = t.toList) : s = t := by
  cases s
  cases t
  cases h
  rfl

instance [DecidableEq α] : DecidableEq (Ordered key) := fun s t =>
  decidable_of_iff (s.toList = t.toList) ⟨ext, fun h => h ▸ rfl⟩

instance : Membership α (Ordered key) where
  mem s a := a ∈ s.toList

def empty : Ordered key := ⟨[], .nil⟩

instance : Inhabited (Ordered key) := ⟨empty⟩

def size (s : Ordered key) : Nat := s.toList.length

/-- Puts an item where its key belongs, in place of an item with the same key. -/
@[specialize] def putList (key : α → κ) (a : α) : List α → List α
  | [] => [a]
  | b :: rest =>
    if key a < key b then a :: b :: rest
    else if key b < key a then b :: putList key a rest
    else a :: rest

theorem mem_putList {a b : α} {l : List α} (h : b ∈ putList key a l) : b = a ∨ b ∈ l := by
  induction l with
  | nil => simpa [putList] using h
  | cons c rest ih =>
    rw [putList] at h
    split at h
    · simpa using h
    · split at h
      · rcases List.mem_cons.mp h with rfl | h
        · simp
        · rcases ih h with rfl | h <;> simp [*]
      · rcases List.mem_cons.mp h with rfl | h <;> simp [*]

theorem sorted_putList (a : α) {l : List α} (h : l.Pairwise fun a b => key a < key b) :
    (putList key a l).Pairwise fun a b => key a < key b := by
  induction l with
  | nil => simp [putList]
  | cons c rest ih =>
    obtain ⟨hc, hrest⟩ := List.pairwise_cons.mp h
    rw [putList]
    split
    · next hac =>
      refine List.pairwise_cons.mpr ⟨fun b hb => ?_, h⟩
      rcases List.mem_cons.mp hb with rfl | hb
      · exact hac
      · exact StrictOrder.trans hac (hc b hb)
    · next hac =>
      split
      · next hca =>
        refine List.pairwise_cons.mpr ⟨fun b hb => ?_, ih hrest⟩
        rcases mem_putList hb with rfl | hb
        · exact hca
        · exact hc b hb
      · next hca =>
        have heq : key a = key c := by
          rcases StrictOrder.trichotomy (key a) (key c) with h | h | h
          · exact absurd h hac
          · exact h
          · exact absurd h hca
        exact List.pairwise_cons.mpr ⟨fun b hb => heq ▸ hc b hb, hrest⟩

@[inline] def put (a : α) (s : Ordered key) : Ordered key :=
  ⟨putList key a s.toList, sorted_putList a s.sorted⟩

@[inline] def erase [DecidableEq κ] (k : κ) (s : Ordered key) : Ordered key :=
  ⟨s.toList.filter fun a => key a ≠ k, s.sorted.filter _⟩

@[inline] def find? [DecidableEq κ] (k : κ) (s : Ordered key) : Option α :=
  s.toList.find? fun a => key a = k

def last? (s : Ordered key) : Option α := s.toList.getLast?

@[inline] def below (k : κ) (s : Ordered key) : List α :=
  s.toList.takeWhile fun a => key a < k

@[inline] def above (k : κ) (s : Ordered key) : List α :=
  s.toList.dropWhile fun a => ¬ k < key a

end Ordered

end AccessTrace
