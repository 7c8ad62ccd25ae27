import AccessTrace.Histogram
import AccessTrace.Proofs.Ordered
import Mathlib

namespace AccessTrace.Histogram

section Tally

variable {counts : Array Nat} {indices : List Nat}

@[simp]
theorem size_tally (counts : Array Nat) (index : Nat) :
    (tally counts index).size = counts.size := by
  simp [tally]

@[simp]
theorem size_foldl_tally (counts : Array Nat) (indices : List Nat) :
    (indices.foldl tally counts).size = counts.size := by
  induction indices generalizing counts with
  | nil => rfl
  | cons index rest ih => simp [ih]

theorem getElem?_tally (counts : Array Nat) (index i : Nat) :
    (tally counts index)[i]? = counts[i]?.map (· + [index].count i) := by
  by_cases same : index = i
  · simp [tally, Array.getElem?_modify, same]
  · simp [tally, Array.getElem?_modify, same]

theorem getElem?_foldl_tally (counts : Array Nat) (indices : List Nat) (i : Nat) :
    (indices.foldl tally counts)[i]? = counts[i]?.map (· + indices.count i) := by
  induction indices generalizing counts with
  | nil => simp
  | cons index rest ih =>
    rw [List.foldl_cons, ih, getElem?_tally]
    cases counts[i]? with
    | none => rfl
    | some count =>
      simp [List.count_cons]
      omega

theorem sum_modify {counts : List Nat} {index : Nat} (within : index < counts.length) :
    (counts.modify index (· + 1)).sum = counts.sum + 1 := by
  induction counts generalizing index with
  | nil => simp at within
  | cons count rest ih =>
    cases index with
    | zero =>
      simp
      omega
    | succ index =>
      simp [ih (Nat.lt_of_succ_lt_succ within)]
      omega

theorem sum_foldl_tally {counts : Array Nat} (within : ∀ i ∈ indices, i < counts.size) :
    (indices.foldl tally counts).toList.sum = counts.toList.sum + indices.length := by
  induction indices generalizing counts with
  | nil => simp
  | cons index rest ih =>
    have tallied : (tally counts index).toList.sum = counts.toList.sum + 1 := by
      simp [tally, sum_modify (within index List.mem_cons_self)]
    have later : ∀ i ∈ rest, i < (tally counts index).size := by
      intro i member
      simpa using within i (List.mem_cons_of_mem _ member)
    rw [List.foldl_cons, ih later, tallied, List.length_cons]
    omega

end Tally

section Counted

theorem foldl_max_spec (counts : List Nat) (start : Nat) :
    (∀ count ∈ counts, count ≤ counts.foldl max start) ∧ start ≤ counts.foldl max start ∧
      counts.foldl max start ≤ start + counts.sum := by
  induction counts generalizing start with
  | nil => simp
  | cons count rest ih =>
    obtain ⟨each, above, below⟩ := ih (max start count)
    simp only [List.foldl_cons, List.forall_mem_cons, List.sum_cons]
    refine ⟨⟨?_, each⟩, ?_, ?_⟩
    · omega
    · omega
    · omega

variable (h : Histogram)

theorem total_eq : h.total = h.counts.toList.sum := by
  rw [total, ← Array.foldl_toList, List.sum_eq_foldl_nat]

theorem maxCount_eq : h.maxCount = h.counts.toList.foldl max 0 := by
  rw [maxCount, ← Array.foldl_toList]

theorem maxCount_le_total : h.maxCount ≤ h.total := by
  obtain ⟨-, -, below⟩ := foldl_max_spec h.counts.toList 0
  rw [total_eq, maxCount_eq]
  omega

theorem total_le : h.total ≤ h.maxCount * h.counts.size := by
  obtain ⟨each, -, -⟩ := foldl_max_spec h.counts.toList 0
  have bounded := List.sum_le_card_nsmul h.counts.toList _ each
  rw [total_eq, maxCount_eq, Nat.mul_comm]
  simpa using bounded

theorem map_count_bins : h.bins.map Bin.count = h.counts.toList := by
  rw [bins, List.map_map]
  exact List.zipIdx_map_fst 0 h.counts.toList

theorem mem_counts_iff {count : Nat} :
    count ∈ h.counts.toList ↔ ∃ bin ∈ h.bins, bin.count = count := by
  rw [← map_count_bins, List.mem_map]

theorem count_le_maxCount {bin : Bin} (member : bin ∈ h.bins) : bin.count ≤ h.maxCount := by
  obtain ⟨each, -, -⟩ := foldl_max_spec h.counts.toList 0
  rw [maxCount_eq]
  exact each bin.count (h.mem_counts_iff.mpr ⟨bin, member, rfl⟩)

theorem exists_fullest (positive : 0 < h.maxCount) : ∃ bin ∈ h.bins, bin.count = h.maxCount := by
  have greatest : (0 :: h.counts.toList).max? = some h.maxCount := by
    rw [List.max?_cons', maxCount_eq]
  obtain ⟨member, -⟩ := List.max?_eq_some_iff.mp greatest
  rcases List.mem_cons.mp member with none | counted
  · omega
  · exact h.mem_counts_iff.mp counted

end Counted

section Extremes

variable {addresses others : List Address} {lowest highest : Address}

theorem foldl_range (addresses : List Address) (range : Address × Address) :
    addresses.foldl (fun range a => (min range.1 a, max range.2 a)) range =
      (addresses.foldl min range.1, addresses.foldl max range.2) := by
  induction addresses generalizing range with
  | nil => rfl
  | cons address rest ih => exact ih _

theorem extremes_eq_none_iff : extremes addresses = none ↔ addresses = [] := by
  cases addresses <;> simp [extremes]

theorem extremes_eq_some_iff : extremes addresses = some (lowest, highest) ↔
    addresses.min? = some lowest ∧ addresses.max? = some highest := by
  cases addresses with
  | nil => simp [extremes]
  | cons address rest =>
    simp only [extremes, foldl_range, List.min?_cons', List.max?_cons', Option.some.injEq,
      Prod.mk.injEq]

theorem extremes_spec (found : extremes addresses = some (lowest, highest)) :
    lowest ∈ addresses ∧ highest ∈ addresses ∧ ∀ a ∈ addresses, lowest ≤ a ∧ a ≤ highest := by
  obtain ⟨least, greatest⟩ := extremes_eq_some_iff.mp found
  obtain ⟨low_mem, low⟩ := List.min?_eq_some_iff.mp least
  obtain ⟨high_mem, high⟩ := List.max?_eq_some_iff.mp greatest
  exact ⟨low_mem, high_mem, fun a member => ⟨low a member, high a member⟩⟩

theorem exists_extremes (inhabited : addresses ≠ []) :
    ∃ lowest highest, extremes addresses = some (lowest, highest) := by
  cases found : extremes addresses with
  | none => exact absurd (extremes_eq_none_iff.mp found) inhabited
  | some range => exact ⟨range.1, range.2, rfl⟩

theorem extremes_of_perm (perm : addresses.Perm others) :
    extremes addresses = extremes others := by
  cases found : extremes addresses with
  | none =>
    obtain rfl := extremes_eq_none_iff.mp found
    rw [List.nil_perm.mp perm]
    rfl
  | some range =>
    obtain ⟨low_mem, high_mem, within⟩ := extremes_spec found
    symm
    apply extremes_eq_some_iff.mpr
    constructor
    · apply List.min?_eq_some_iff.mpr
      exact ⟨perm.mem_iff.mp low_mem, fun a member => (within a (perm.mem_iff.mpr member)).1⟩
    · apply List.max?_eq_some_iff.mpr
      exact ⟨perm.mem_iff.mp high_mem, fun a member => (within a (perm.mem_iff.mpr member)).2⟩

end Extremes

section Made

variable {addresses others : List Address} {lowest highest : Address} {bins : Nat}

def width (lowest highest : Address) (bins : Nat) : Float :=
  ((span lowest highest).2 - (span lowest highest).1) / bins.toUInt64.toFloat

def place (lowest highest : Address) (bins : Nat) : Address → Nat :=
  binIndex (span lowest highest).1 (width lowest highest bins) bins

def counted (addresses : List Address) (lowest highest : Address) (bins : Nat) : Histogram where
  start := (span lowest highest).1
  binSize := width lowest highest bins
  counts := (addresses.map (place lowest highest bins)).foldl tally (Array.replicate bins 0)

theorem binIndex_lt (start binSize : Float) (positive : 0 < bins) (address : Address) :
    binIndex start binSize bins address < bins := by
  unfold binIndex
  omega

theorem ofAddresses_nil (bins : Nat) : ofAddresses [] bins = .ok none := by
  simp [ofAddresses, extremes]

theorem ofAddresses_of_extremes (found : extremes addresses = some (lowest, highest))
    (positive : 0 < bins) :
    ofAddresses addresses bins =
      if maxBins ≤ bins then .error .capacityOverflow
      else .ok (some (counted addresses lowest highest bins)) := by
  simp only [ofAddresses, found, if_neg (Nat.ne_of_gt positive)]
  rfl

/-- What a histogram has to say of the addresses that it counts. -/
structure Describes (h : Histogram) (addresses : List Address) (bins : Nat) : Prop where
  bins_eq : h.bins.length = bins
  within : ∀ address, binIndex h.start h.binSize bins address < bins
  count_eq : ∀ i < bins, h.counts[i]? =
    some (addresses.countP fun address => binIndex h.start h.binSize bins address = i)
  sum_eq : (h.bins.map Bin.count).sum = h.total
  total_eq : h.total = addresses.length
  total_le : h.total ≤ h.maxCount * bins
  maxCount_le : h.maxCount ≤ h.total

theorem count_map_place (addresses : List Address) (i : Nat) :
    (addresses.map (place lowest highest bins)).count i =
      addresses.countP fun address => place lowest highest bins address = i := by
  rw [List.count_eq_countP, List.countP_map]
  congr 1

theorem counted_describes (addresses : List Address) (lowest highest : Address)
    (positive : 0 < bins) : (counted addresses lowest highest bins).Describes addresses bins := by
  have within : ∀ i ∈ addresses.map (place lowest highest bins),
      i < (Array.replicate bins 0).size := by
    intro i member
    obtain ⟨address, -, rfl⟩ := List.mem_map.mp member
    rw [Array.size_replicate]
    exact binIndex_lt _ _ positive address
  have size : (counted addresses lowest highest bins).counts.size = bins := by simp [counted]
  have total : (counted addresses lowest highest bins).total = addresses.length := by
    rw [total_eq, counted, sum_foldl_tally within]
    simp
  have each := map_count_bins (counted addresses lowest highest bins)
  constructor
  · have length := congrArg List.length each
    simpa [size] using length
  · exact binIndex_lt _ _ positive
  · intro i below
    rw [counted, getElem?_foldl_tally, count_map_place, Array.getElem?_replicate, if_pos below,
      Option.map_some, Nat.zero_add]
    rfl
  · rw [each, total_eq]
  · exact total
  · have spread := Histogram.total_le (counted addresses lowest highest bins)
    rwa [size] at spread
  · exact maxCount_le_total _

theorem describes_of_ofAddresses {h : Histogram}
    (made : ofAddresses addresses bins = .ok (some h)) :
    addresses ≠ [] ∧ h.Describes addresses bins := by
  rcases Nat.eq_zero_or_pos bins with rfl | positive
  · simp [ofAddresses] at made
  cases found : extremes addresses with
  | none =>
    rw [extremes_eq_none_iff.mp found, ofAddresses_nil] at made
    cases made
  | some range =>
    obtain ⟨member, -⟩ := extremes_spec found
    rw [ofAddresses_of_extremes found positive] at made
    split at made
    · cases made
    · cases made
      exact ⟨List.ne_nil_of_mem member, counted_describes addresses range.1 range.2 positive⟩

theorem Describes.maxCount_pos {h : Histogram} (describes : h.Describes addresses bins)
    (inhabited : addresses ≠ []) : 0 < h.maxCount := by
  have counted : 0 < h.total := by
    rw [describes.total_eq]
    exact List.length_pos_of_ne_nil inhabited
  have spread := Nat.lt_of_lt_of_le counted describes.total_le
  exact Nat.pos_of_mul_pos_right spread

theorem ofAddresses_perm (perm : addresses.Perm others) (bins : Nat) :
    ofAddresses addresses bins = ofAddresses others bins := by
  have same := extremes_of_perm perm
  rcases Nat.eq_zero_or_pos bins with rfl | positive
  · simp [ofAddresses]
  cases found : extremes addresses with
  | none =>
    rw [extremes_eq_none_iff.mp found, extremes_eq_none_iff.mp (same.symm.trans found)]
  | some range =>
    have counts : (counted addresses range.1 range.2 bins) =
        counted others range.1 range.2 bins := by
      simp only [counted, Histogram.mk.injEq, true_and]
      apply Array.ext_getElem?
      intro i
      rw [getElem?_foldl_tally, getElem?_foldl_tally, (perm.map _).count_eq]
    rw [ofAddresses_of_extremes found positive,
      ofAddresses_of_extremes (same.symm.trans found) positive, counts]

end Made

end AccessTrace.Histogram
