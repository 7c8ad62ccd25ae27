import AccessTrace.Proofs.Double.Arithmetic
import AccessTrace.Proofs.Histogram.Counts

/-!
Where the lowest and the highest address are counted. The positions are double-precision numbers:
what is said of them holds only as far as these can tell addresses from each other.
-/

namespace AccessTrace.Histogram

open Double
open Float.Model (UnpackedFloat)

variable {lowest highest address : Address} {bins : Nat} {x y : Float} {v w : ℚ}

section Widths

theorem hasValue_bins (positive : 0 < bins) (small : bins < maxBins) :
    ∃ n, Rounds bins n ∧ 1 ≤ n ∧ n ≤ 2 ^ (60 : ℤ) ∧ HasValue bins.toUInt64.toFloat n := by
  have fits : bins < 2 ^ 60 := small
  have kept : bins.toUInt64.toNat = bins := by
    apply UInt64.toNat_ofNat_of_lt'
    exact fits.trans (by decide)
  obtain ⟨n, rounds, has⟩ := hasValue_toFloat bins.toUInt64
  rw [kept] at rounds
  exact ⟨n, rounds, rounds.one_le positive, rounds.le_pow fits.le, has⟩

/-- A range of some width is divided into bins. -/
structure Divides (w : ℚ) (bins : Nat) (n d : ℚ) : Prop where
  bins_eq : Rounds bins n
  one_le : 1 ≤ n
  quotient : Rounds (w / n) d
  low : 0 < w → 2 ^ (-61 : ℤ) ≤ d
  high : d ≤ 2 ^ (64 : ℤ)

theorem Divides.pos {n d : ℚ} (divides : Divides w bins n d) (some : 0 < w) : 0 < d :=
  (pow_pos_two _).trans_le (divides.low some)

theorem hasValue_div_bins (has : HasValue x w) (natural : 0 ≤ w)
    (low : 0 < w → 2 ^ (-1 : ℤ) ≤ w) (high : w ≤ 2 ^ (64 : ℤ)) (positive : 0 < bins)
    (small : bins < maxBins) :
    ∃ n d, Divides w bins n d ∧ HasValue (x / bins.toUInt64.toFloat) d := by
  obtain ⟨n, rounds, one_le, le, has_bins⟩ := hasValue_bins positive small
  have some : 0 < n := by linarith
  have above (some : 0 < w) : (2 : ℚ) ^ (-61 : ℤ) ≤ w / n := by
    have least := low some
    rw [le_div_iff₀ (by linarith)]
    calc (2 : ℚ) ^ (-61 : ℤ) * n ≤ 2 ^ (-61 : ℤ) * 2 ^ (60 : ℤ) := by gcongr
      _ = 2 ^ (-1 : ℤ) := by norm_num
      _ ≤ w := least
  have below : w / n ≤ 2 ^ (64 : ℤ) := (div_le_self natural one_le).trans high
  have moderate : Moderate (w / n) := by
    refine moderate_of_le (fun positive => above ?_) below (by norm_num) (by norm_num)
    exact (div_pos_iff_of_pos_right some).mp positive
  obtain ⟨d, quotient, has⟩ := hasValue_div has has_bins some moderate
  refine ⟨n, d, ⟨rounds, one_le, quotient, ?_, ?_⟩, has⟩
  · intro positive
    exact (rounds_zpow _).mono quotient (above positive)
  · exact quotient.mono (rounds_zpow _) below

theorem hasValue_zero_div_bins (has : HasValue x 0) (positive : 0 < bins)
    (small : bins < maxBins) : HasValue (x / bins.toUInt64.toFloat) 0 := by
  have none : 0 < (0 : ℚ) → (2 : ℚ) ^ (-1 : ℤ) ≤ 0 := fun absurd => (lt_irrefl 0 absurd).elim
  obtain ⟨n, d, divides, has_width⟩ :=
    hasValue_div_bins has le_rfl none (by positivity) positive small
  have quotient := divides.quotient
  rw [zero_div] at quotient
  rwa [quotient.unique .zero] at has_width

end Widths

section Ends

theorem Divides.sub_one_le {n d : ℚ} (divides : Divides w bins n d) (some : 0 < w)
    (few : bins ≤ 2 ^ 53) (positive : 0 < bins) : ((bins - 1 : ℕ) : ℚ) ≤ w / d := by
  have exact_bins : n = bins := divides.bins_eq.unique (rounds_nat few)
  have width_pos := divides.pos some
  have one_le := divides.one_le
  have error := (abs_le.mp divides.quotient.error).2
  rw [exact_bins] at error one_le
  have few : (bins : ℚ) ≤ 2 ^ 53 := by exact_mod_cast few
  obtain ⟨q, whole⟩ : ∃ q, w = q * bins := ⟨w / bins, by field_simp⟩
  have part : w / bins = q := by rw [whole, mul_div_cancel_right₀ _ (by linarith)]
  have part_pos : 0 < q := by
    rw [← part]
    positivity
  rw [part] at error
  rw [le_div_iff₀ width_pos, Nat.cast_pred positive, whole]
  calc ((bins : ℚ) - 1) * d ≤ (bins - 1) * (q + q / 2 ^ 53) := by
        gcongr
        linarith
    _ = q * bins - q * (1 - (bins - 1) / 2 ^ 53) := by ring
    _ ≤ q * bins := by
        have rest : (bins - 1 : ℚ) / 2 ^ 53 ≤ 1 := by
          rw [div_le_one (by positivity)]
          linarith
        have lost : 0 ≤ q * (1 - (bins - 1) / 2 ^ 53) := by
          apply mul_nonneg part_pos.le
          linarith
        linarith

theorem place_eq (differ : lowest ≠ highest) (bins : Nat) (address : Address) :
    place lowest highest bins address =
      min ((address.toFloat - lowest.toFloat) /
        ((highest.toFloat - lowest.toFloat) / bins.toUInt64.toFloat)).toUInt64.toNat (bins - 1) := by
  simp only [place, binIndex, width, span, if_neg differ]

theorem toFloat_eq_of_between (same : lowest.toFloat = highest.toFloat)
    (above : lowest ≤ address) (below : address ≤ highest) :
    address.toFloat = lowest.toFloat := by
  obtain ⟨l, low, has_low⟩ := hasValue_toFloat lowest
  obtain ⟨h, high, has_high⟩ := hasValue_toFloat highest
  obtain ⟨a, between, has⟩ := hasValue_toFloat address
  have equal : l = h := by
    rw [same] at has_low
    exact has_low.value_unique has_high
  have low_le : l ≤ a := low.mono between (by exact_mod_cast UInt64.le_iff_toNat_le.mp above)
  have le_high : a ≤ h := between.mono high (by exact_mod_cast UInt64.le_iff_toNat_le.mp below)
  rw [le_antisymm (le_high.trans equal.ge) low_le] at has
  exact has.unique has_low

theorem place_of_toFloat_eq (differ : lowest ≠ highest) (same : lowest.toFloat = highest.toFloat)
    (above : lowest ≤ address) (below : address ≤ highest) (positive : 0 < bins)
    (small : bins < maxBins) : place lowest highest bins address = 0 := by
  obtain ⟨v, -, has⟩ := hasValue_toFloat highest
  have range := hasValue_sub_self has
  have has_width := hasValue_zero_div_bins range positive small
  rw [place_eq differ, toFloat_eq_of_between same above below, same,
    toUInt64_div_zero range has_width]
  exact Nat.zero_min _

theorem exists_range (differ : lowest.toFloat ≠ highest.toFloat) (le : lowest ≤ highest) :
    ∃ w, 2 ^ (0 : ℤ) ≤ w ∧ w ≤ 2 ^ (64 : ℤ) ∧ HasValue (highest.toFloat - lowest.toFloat) w := by
  obtain ⟨l, low, has_low⟩ := hasValue_toFloat lowest
  obtain ⟨h, high, has_high⟩ := hasValue_toFloat highest
  have ordered : l ≤ h := low.mono high (by exact_mod_cast UInt64.le_iff_toNat_le.mp le)
  have apart : l ≠ h := by
    rintro rfl
    exact differ (has_low.unique has_high)
  have below : h ≤ 2 ^ (64 : ℤ) := high.le_pow highest.toNat_lt.le
  obtain ⟨i, rfl⟩ := low.exists_nat
  obtain ⟨j, rfl⟩ := high.exists_nat
  have less : i + 1 ≤ j := by
    apply Nat.lt_of_le_of_ne
    · exact_mod_cast ordered
    · exact_mod_cast apart
  have least : (2 : ℚ) ^ (0 : ℤ) ≤ j - i := by
    have less : (i : ℚ) + 1 ≤ j := by exact_mod_cast less
    rw [zpow_zero]
    linarith
  have most : (j : ℚ) - i ≤ 2 ^ (64 : ℤ) := (sub_le_self _ (Nat.cast_nonneg i)).trans below
  have moderate : Moderate ((j : ℚ) - i) :=
    moderate_of_le (fun _ => least) most (by norm_num) (by norm_num)
  obtain ⟨w, rounds, has⟩ := hasValue_sub has_high has_low ordered moderate
  exact ⟨w, (rounds_zpow 0).mono rounds least, rounds.mono (rounds_zpow 64) most, has⟩

theorem exists_divides (differ : lowest.toFloat ≠ highest.toFloat) (le : lowest ≤ highest)
    (positive : 0 < bins) (small : bins < maxBins) :
    ∃ w n d, 0 < w ∧ Moderate (w / d) ∧ Divides w bins n d ∧
      HasValue (highest.toFloat - lowest.toFloat) w ∧
      HasValue ((highest.toFloat - lowest.toFloat) / bins.toUInt64.toFloat) d := by
  obtain ⟨w, least, most, has⟩ := exists_range differ le
  have some : 0 < w := lt_of_lt_of_le (by positivity) least
  have enough : (2 : ℚ) ^ (-1 : ℤ) ≤ w := le_trans (by norm_num) least
  obtain ⟨n, d, divides, has_width⟩ :=
    hasValue_div_bins has some.le (fun _ => enough) most positive small
  have width_low := divides.low some
  have width_high := divides.high
  have width_pos := divides.pos some
  have above : (2 : ℚ) ^ (-64 : ℤ) ≤ w / d := by
    calc (2 : ℚ) ^ (-64 : ℤ) = 2 ^ (0 : ℤ) / 2 ^ (64 : ℤ) := by norm_num
      _ ≤ w / d := by gcongr
  have below : w / d ≤ (2 : ℚ) ^ (125 : ℤ) := by
    calc w / d ≤ (2 : ℚ) ^ (64 : ℤ) / 2 ^ (-61 : ℤ) := by gcongr
      _ = 2 ^ (125 : ℤ) := by norm_num
  have moderate := moderate_of_le (fun _ => above) below (by norm_num) (by norm_num)
  exact ⟨w, n, d, some, moderate, divides, has, has_width⟩

theorem place_lowest (differ : lowest ≠ highest) (le : lowest ≤ highest) (positive : 0 < bins)
    (small : bins < maxBins) : place lowest highest bins lowest = 0 := by
  by_cases same : lowest.toFloat = highest.toFloat
  · exact place_of_toFloat_eq differ same (UInt64.le_refl _) le positive small
  · obtain ⟨w, n, d, some, -, divides, -, has_width⟩ := exists_divides same le positive small
    obtain ⟨l, -, has_low⟩ := hasValue_toFloat lowest
    have width_pos := divides.pos some
    obtain ⟨r, rounds, has⟩ := hasValue_div (hasValue_sub_self has_low) has_width width_pos (by
      rw [zero_div]
      exact moderate_zero)
    rw [zero_div] at rounds
    rw [rounds.unique .zero] at has
    rw [place_eq differ, toUInt64_zero has]
    exact Nat.zero_min _

/-- The rounded quotient may be too great but not too small, so the last bin is not missed. -/
theorem place_highest (differ : lowest.toFloat ≠ highest.toFloat) (le : lowest ≤ highest)
    (positive : 0 < bins) (few : bins ≤ 2 ^ 53) : place lowest highest bins highest = bins - 1 := by
  have apart : lowest ≠ highest := by
    rintro rfl
    exact differ rfl
  have small : bins < maxBins := lt_of_le_of_lt few (by decide)
  obtain ⟨w, n, d, some, moderate, divides, has_range, has_width⟩ :=
    exists_divides differ le positive small
  have width_pos := divides.pos some
  obtain ⟨r, rounds, has⟩ := hasValue_div has_range has_width width_pos moderate
  have reached : ((bins - 1 : ℕ) : ℚ) ≤ r := by
    apply (rounds_nat (by omega)).mono rounds
    exact divides.sub_one_le some few positive
  have last := le_toUInt64 has reached (by omega)
  rw [place_eq apart]
  exact Nat.min_eq_right last

end Ends

section Single

/-- A single address differs from the positions one half below and above it, or from one of them. -/
def Widened (address : Address) : Prop :=
  address.toNat ≤ 2 ^ 52 ∨ address.toNat < 2 ^ 53 ∧ address.toNat % 2 = 1

/-- The positions one half below and above a number, as they are rounded. -/
structure Halves (v s l : ℚ) : Prop where
  below : Rounds (v - 1 / 2) s
  above : Rounds (v + 1 / 2) l

theorem hasValue_halves (has : HasValue x v) (one_le : 1 ≤ v) (le : v ≤ 2 ^ (64 : ℤ)) :
    ∃ s l, Halves v s l ∧ HasValue (x - 0.5) s ∧ HasValue (x + 0.5) l := by
  have least : (2 : ℚ) ^ (-1 : ℤ) ≤ v - 1 / 2 := by
    norm_num
    linarith
  have most : v + 1 / 2 ≤ 2 ^ (65 : ℤ) := by
    norm_num at le ⊢
    linarith
  have ordered : v - 1 / 2 ≤ v + 1 / 2 := by linarith
  have below : Moderate (v - 1 / 2) :=
    moderate_of_le (fun _ => least) (ordered.trans most) (by norm_num) (by norm_num)
  have above : Moderate (v + 1 / 2) :=
    moderate_of_le (fun _ => least.trans ordered) most (by norm_num) (by norm_num)
  obtain ⟨s, rounds, has_below⟩ := hasValue_sub has hasValue_half (by linarith) below
  obtain ⟨l, rounds', has_above⟩ := hasValue_add has hasValue_half above
  exact ⟨s, l, ⟨rounds, rounds'⟩, has_below, has_above⟩

theorem Halves.of_le {n : ℕ} {s l : ℚ} (halves : Halves n s l) (positive : 0 < n)
    (le : n ≤ 2 ^ 52) : s = n - 1 / 2 ∧ n ≤ l ∧ l ≤ n + 1 := by
  have half : ((2 * n - 1 : ℕ) : ℚ) * 2 ^ (-1 : ℤ) = n - 1 / 2 := by
    rw [Nat.cast_sub (by omega)]
    push_cast
    ring
  have self := rounds_self (by omega : 2 * n - 1 < 2 ^ 53) (-1)
  rw [half] at self
  have next : Rounds (n + 1) (n + 1) := by exact_mod_cast rounds_nat (by omega : n + 1 ≤ 2 ^ 53)
  refine ⟨halves.below.unique self, ?_, ?_⟩
  · apply (rounds_nat (by omega)).mono halves.above
    linarith
  · apply halves.above.mono next
    linarith

theorem Halves.of_digits {n : ℕ} {s l : ℚ} (halves : Halves n s l) (low : 2 ^ 52 < n)
    (high : n < 2 ^ 53) : s = (n - 1 + (n - 1) % 2 : ℕ) ∧ l = (n + n % 2 : ℕ) := by
  have before : ((n - 1 : ℕ) : ℚ) + 1 / 2 = n - 1 / 2 := by
    rw [Nat.cast_pred (by omega)]
    ring
  have half := rounds_half (by omega : 2 ^ 52 ≤ n - 1) (by omega)
  rw [before] at half
  exact ⟨halves.below.unique half, halves.above.unique (rounds_half low.le high)⟩

theorem Halves.of_ge {u : UnpackedFloat} {s l : ℚ} (halves : Halves v s l)
    (stands : Stands u v) (ge : 2 ^ 53 ≤ v) : s = v ∧ l = v := by
  cases stands with
  | zero => norm_num at ge
  | @normal m e positive low high =>
    have some : 0 < e := by
      by_contra none
      have small : (2 : ℚ) ^ e ≤ 2 ^ (0 : ℤ) := zpow_le_zpow_right₀ (by norm_num) (by omega)
      have short : (m : ℚ) + 1 ≤ 2 ^ 53 := by exact_mod_cast high
      rw [zpow_zero] at small
      nlinarith [pow_pos_two e]
    have two : (2 : ℚ) ^ (1 : ℤ) ≤ 2 ^ e := zpow_le_zpow_right₀ (by norm_num) some
    rw [zpow_one] at two
    have below := rounds_sub (d := 1 / 2) (e := e) low high (by norm_num) (by linarith)
    have above := rounds_add (d := 1 / 2) (e := e) low high (by norm_num) (by linarith)
    exact ⟨halves.below.unique below, halves.above.unique above⟩

/-- The range around a single address, as it is rounded. -/
def Ranges (address : Address) (w : ℚ) : Prop :=
  Widened address ∧ 2 ^ (-1 : ℤ) ≤ w ∧ w ≤ 2 ^ (1 : ℤ) ∨ ¬ Widened address ∧ w = 0

theorem Ranges.rounds {q w : ℚ} (ranges : Ranges address q) (rounds : Rounds q w) :
    Ranges address w := by
  rcases ranges with ⟨widened, least, most⟩ | ⟨lost, rfl⟩
  · exact .inl ⟨widened, (rounds_zpow _).mono rounds least, rounds.mono (rounds_zpow _) most⟩
  · exact .inr ⟨lost, rounds.unique .zero⟩

theorem Ranges.moderate (ranges : Ranges address w) : Moderate w := by
  rcases ranges with ⟨-, least, most⟩ | ⟨-, rfl⟩
  · exact moderate_of_le (fun _ => least) most (by norm_num) (by norm_num)
  · exact moderate_zero

theorem ranges_of_halves {s l : ℚ} (positive : 0 < address.toNat)
    (rounds : Rounds address.toNat v) (has : HasValue address.toFloat v)
    (halves : Halves v s l) : Ranges address (l - s) := by
  obtain ⟨n, number⟩ : ∃ n, address.toNat = n := ⟨_, rfl⟩
  unfold Ranges Widened
  rw [number] at rounds positive ⊢
  rcases Nat.lt_or_ge n (2 ^ 53) with short | long
  · obtain rfl : v = n := rounds.unique (rounds_nat short.le)
    rcases Nat.lt_or_ge (2 ^ 52) n with many | few
    · obtain ⟨rfl, rfl⟩ := halves.of_digits many short
      rcases Nat.mod_two_eq_zero_or_one n with even | odd
      · refine .inr ⟨by omega, ?_⟩
        have same : n + n % 2 = n - 1 + (n - 1) % 2 := by omega
        rw [same, sub_self]
      · refine .inl ⟨by omega, ?_⟩
        have apart : n + n % 2 = n - 1 + (n - 1) % 2 + 2 := by omega
        rw [apart]
        push_cast
        norm_num
    · obtain ⟨rfl, least, most⟩ := halves.of_le positive few
      refine .inl ⟨.inl few, ?_⟩
      norm_num
      constructor <;> linarith
  · have great : 2 ^ 53 ≤ v := by
      have power : Rounds ((2 : ℚ) ^ 53) (2 ^ 53) := by exact_mod_cast rounds_zpow 53
      apply power.mono rounds
      exact_mod_cast long
    obtain ⟨u, stands, -⟩ := has
    obtain ⟨rfl, rfl⟩ := halves.of_ge stands great
    exact .inr ⟨by omega, sub_self _⟩

theorem exists_ranges (address : Address) :
    ∃ w, Ranges address w ∧ HasValue (address.toFloat + 0.5 - (address.toFloat - 0.5)) w := by
  rcases Nat.eq_zero_or_pos address.toNat with none | positive
  · have zero : address = 0 := UInt64.toNat_inj.mp none
    have one : address.toFloat + 0.5 - (address.toFloat - 0.5) = UInt64.toFloat 1 := by
      rw [zero]
      decide +kernel
    obtain ⟨w, rounds, has⟩ := hasValue_toFloat 1
    refine ⟨w, .inl ⟨.inl (by omega), ?_, ?_⟩, ?_⟩
    · exact le_trans (by norm_num) (rounds.one_le (by decide))
    · exact rounds.le_pow (by decide)
    · rw [one]
      exact has
  · obtain ⟨v, rounds, has⟩ := hasValue_toFloat address
    obtain ⟨s, l, halves, has_below, has_above⟩ :=
      hasValue_halves has (rounds.one_le positive) (rounds.le_pow address.toNat_lt.le)
    have ranges := ranges_of_halves positive rounds has halves
    have ordered : s ≤ l := halves.below.mono halves.above (by linarith)
    obtain ⟨w, rounds', has_range⟩ :=
      hasValue_sub has_above has_below ordered ranges.moderate
    exact ⟨w, ranges.rounds rounds', has_range⟩

/-- With a single address, the bins have a width if the halves around it are not both lost. -/
theorem width_pos_iff (address : Address) (positive : 0 < bins) (small : bins < maxBins) :
    0 < width address address bins ↔ Widened address := by
  obtain ⟨w, ranges, has⟩ := exists_ranges address
  have whole : width address address bins =
      (address.toFloat + 0.5 - (address.toFloat - 0.5)) / bins.toUInt64.toFloat := by
    simp only [width, span, if_pos]
  rcases ranges with ⟨widened, least, most⟩ | ⟨lost, rfl⟩
  · have some : 0 < w := lt_of_lt_of_le (by positivity) least
    have high : w ≤ 2 ^ (64 : ℤ) := most.trans (by norm_num)
    obtain ⟨n, d, divides, has_width⟩ :=
      hasValue_div_bins has some.le (fun _ => least) high positive small
    rw [whole, zero_lt_iff has_width]
    exact iff_of_true (divides.pos some) widened
  · have has_width := hasValue_zero_div_bins has positive small
    rw [whole, zero_lt_iff has_width]
    exact iff_of_false (lt_irrefl 0) lost

end Single

section Main

variable {addresses : List Address}

theorem toFloat_ne_of_le (less : lowest < highest) (small : highest.toNat ≤ 2 ^ 53) :
    lowest.toFloat ≠ highest.toFloat := by
  have less := UInt64.lt_iff_toNat_lt.mp less
  obtain ⟨l, low, has_low⟩ := hasValue_toFloat lowest
  obtain ⟨h, high, has_high⟩ := hasValue_toFloat highest
  intro same
  rw [same] at has_low
  rw [has_low.value_unique has_high] at low
  have exact_low := low.unique (rounds_nat (less.le.trans small))
  have exact_high := high.unique (rounds_nat small)
  have equal : lowest.toNat = highest.toNat := by exact_mod_cast exact_low.symm.trans exact_high
  omega

/-- The lowest address is counted in the first bin. The highest one is counted in the last bin, if
the two differ as double-precision numbers; otherwise all addresses are in the first bin. If there
is only one address, the bins have a width if its halves are not lost. -/
theorem ofAddresses_ends (least : addresses.min? = some lowest)
    (greatest : addresses.max? = some highest) (positive : 0 < bins) :
    (maxBins ≤ bins → ofAddresses addresses bins = .error .capacityOverflow) ∧
      (bins < maxBins → ∃ h : Histogram, ofAddresses addresses bins = .ok (some h) ∧
        h.Describes addresses bins ∧
        (lowest ≠ highest → binIndex h.start h.binSize bins lowest = 0 ∧
          (highest.toNat ≤ 2 ^ 53 → lowest.toFloat ≠ highest.toFloat) ∧
          (lowest.toFloat ≠ highest.toFloat → bins ≤ 2 ^ 53 →
            binIndex h.start h.binSize bins highest = bins - 1) ∧
          (lowest.toFloat = highest.toFloat →
            ∀ a ∈ addresses, binIndex h.start h.binSize bins a = 0)) ∧
        (lowest = highest → (0 < h.binSize ↔
          lowest.toNat ≤ 2 ^ 52 ∨ lowest.toNat < 2 ^ 53 ∧ lowest.toNat % 2 = 1))) := by
  have found := extremes_eq_some_iff.mpr ⟨least, greatest⟩
  have made := ofAddresses_of_extremes found positive
  obtain ⟨member, -, within⟩ := extremes_spec found
  have le : lowest ≤ highest := (within lowest member).2
  refine ⟨fun vast => by rw [made, if_pos vast], fun small => ?_⟩
  rw [if_neg (Nat.not_le.mpr small)] at made
  refine ⟨_, made, counted_describes addresses lowest highest positive, fun differ => ?_, ?_⟩
  · refine ⟨place_lowest differ le positive small, fun short => ?_, fun apart few => ?_,
      fun same a member => ?_⟩
    · exact toFloat_ne_of_le (UInt64.lt_of_le_of_ne le differ) short
    · exact place_highest apart le positive few
    · exact place_of_toFloat_eq differ same (within a member).1 (within a member).2 positive small
  · rintro rfl
    exact width_pos_iff lowest positive small

theorem ofAddresses_ends_few :
    (∃ h : Histogram, ofAddresses [0x40, 0x10, 0x38, 0x10] 3 = .ok (some h) ∧
      binIndex h.start h.binSize 3 0x10 = 0 ∧ binIndex h.start h.binSize 3 0x40 = 2) ∧
    ∃ h : Histogram, ofAddresses [0x10, 0x10] 3 = .ok (some h) ∧ 0 < h.binSize := by
  constructor
  · have least : [0x40, 0x10, 0x38, 0x10].min? = some (0x10 : Address) := by decide
    have greatest : [0x40, 0x10, 0x38, 0x10].max? = some (0x40 : Address) := by decide
    obtain ⟨-, counts⟩ := ofAddresses_ends least greatest (by decide : 0 < 3)
    obtain ⟨h, made, -, ends, -⟩ := counts (by decide)
    obtain ⟨first, apart, last, -⟩ := ends (by decide)
    exact ⟨h, made, first, last (apart (by decide)) (by decide)⟩
  · have least : [0x10, 0x10].min? = some (0x10 : Address) := by decide
    have greatest : [0x10, 0x10].max? = some (0x10 : Address) := by decide
    obtain ⟨-, counts⟩ := ofAddresses_ends least greatest (by decide : 0 < 3)
    obtain ⟨h, made, -, -, single⟩ := counts (by decide)
    exact ⟨h, made, (single rfl).mpr (by decide)⟩

/-- Two addresses that are one double-precision number are both counted in the first of two bins.
Around one of them there is a range without width. -/
theorem ends_lost :
    (∃ h : Histogram, ofAddresses [0x20000000000000, 0x20000000000001] 2 = .ok (some h) ∧
      h.counts = #[2, 0]) ∧
    ∃ h : Histogram, ofAddresses [0x20000000000000] 1 = .ok (some h) ∧ ¬ 0 < h.binSize := by
  constructor
  · exact ⟨_, rfl, by decide +kernel⟩
  · exact ⟨_, rfl, by decide +kernel⟩

end Main

end AccessTrace.Histogram
