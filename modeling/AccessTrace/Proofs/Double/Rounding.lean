import Mathlib

/-!
Positive rational numbers and those with 53 binary digits next to them. Of two that are equally near
it is the one with an even last digit.
-/

namespace AccessTrace.Double

/-- The natural number is next to the rational one. -/
structure IsNearest (x : ℚ) (n : ℕ) : Prop where
  above : x ≤ n + 1 / 2
  below : n - 1 / 2 ≤ x
  tie : x = n + 1 / 2 ∨ x = n - 1 / 2 → Even n

/-- The rational number has 53 digits before the digit with the exponent, and so many of the last
one are next to it. -/
structure RoundsAt (q : ℚ) (e : ℤ) (n : ℕ) : Prop where
  low : 2 ^ 52 ≤ q / 2 ^ e
  high : q / 2 ^ e < 2 ^ 53
  nearest : IsNearest (q / 2 ^ e) n

/-- Zero, or the number with 53 digits that is next to a positive one. -/
inductive Rounds : ℚ → ℚ → Prop where
  | zero : Rounds 0 0
  | digits {q : ℚ} {e : ℤ} {n : ℕ} (at_e : RoundsAt q e n) : Rounds q (n * 2 ^ e)

variable {x y q q' r r' : ℚ} {e e' : ℤ} {m n k : ℕ}

theorem isNearest_of_lt (below : n - 1 / 2 < x) (above : x < n + 1 / 2) : IsNearest x n := by
  refine ⟨above.le, below.le, ?_⟩
  rintro (same | same)
  · exact absurd same above.ne
  · exact absurd same below.ne'

theorem isNearest_self (n : ℕ) : IsNearest n n := by
  apply isNearest_of_lt
  · linarith
  · linarith

theorem isNearest_half (m : ℕ) : IsNearest (m + 1 / 2) (m + m % 2) := by
  rcases Nat.mod_two_eq_zero_or_one m with even | odd
  · simp only [even, add_zero]
    exact ⟨le_rfl, by linarith, fun _ => Nat.even_iff.mpr even⟩
  · rw [odd]
    have next : ((m + 1 : ℕ) : ℚ) = m + 1 := Nat.cast_succ m
    exact ⟨by linarith, by linarith, fun _ => Nat.even_iff.mpr (by omega)⟩

theorem IsNearest.mono (nearest : IsNearest x m) (nearest' : IsNearest y n) (le : x ≤ y) :
    m ≤ n := by
  by_contra less
  have next : (n : ℚ) + 1 ≤ m := by exact_mod_cast Nat.lt_of_not_le less
  have below := nearest.below
  have above := nearest'.above
  have even := nearest.tie (.inr (by linarith))
  have even' := nearest'.tie (.inl (by linarith))
  have same : (m : ℚ) = n + 1 := by linarith
  have succ : m = n + 1 := by exact_mod_cast same
  rw [succ, Nat.even_add_one] at even
  exact even even'

theorem IsNearest.unique (nearest : IsNearest x m) (nearest' : IsNearest x n) : m = n :=
  le_antisymm (nearest.mono nearest' le_rfl) (nearest'.mono nearest le_rfl)

theorem pow_pos_two (e : ℤ) : (0 : ℚ) < 2 ^ e := by positivity

theorem RoundsAt.low_mul (rounds : RoundsAt q e n) : 2 ^ 52 * 2 ^ e ≤ q :=
  (le_div_iff₀ (pow_pos_two e)).mp rounds.low

theorem RoundsAt.lt_mul (rounds : RoundsAt q e n) : q < 2 ^ 53 * 2 ^ e :=
  (div_lt_iff₀ (pow_pos_two e)).mp rounds.high

theorem RoundsAt.low_le (rounds : RoundsAt q e n) : 2 ^ 52 ≤ n := by
  have low : IsNearest ((2 ^ 52 : ℕ) : ℚ) (2 ^ 52) := isNearest_self _
  apply low.mono rounds.nearest
  exact_mod_cast rounds.low

theorem RoundsAt.le_high (rounds : RoundsAt q e n) : n ≤ 2 ^ 53 := by
  have high : IsNearest ((2 ^ 53 : ℕ) : ℚ) (2 ^ 53) := isNearest_self _
  apply rounds.nearest.mono high
  exact_mod_cast rounds.high.le

theorem RoundsAt.exponent_le (rounds : RoundsAt q e m) (rounds' : RoundsAt q' e' n)
    (le : q ≤ q') : e ≤ e' := by
  by_contra less
  have step : (2 : ℚ) ^ (e' + 1) ≤ 2 ^ e := zpow_le_zpow_right₀ (by norm_num) (by omega)
  rw [zpow_add_one₀ (by norm_num)] at step
  have low := rounds.low_mul
  have high := rounds'.lt_mul
  linarith

theorem RoundsAt.pos (rounds : RoundsAt q e n) : 0 < q ∧ (0 : ℚ) < n * 2 ^ e := by
  have low := rounds.low_le
  have digits : 0 < n := by omega
  constructor
  · exact lt_of_lt_of_le (by positivity) rounds.low_mul
  · positivity

theorem RoundsAt.mono (at_e : RoundsAt q e m) (at_e' : RoundsAt q' e' n) (le : q ≤ q') :
    (m : ℚ) * 2 ^ e ≤ n * 2 ^ e' := by
  rcases (at_e.exponent_le at_e' le).eq_or_lt with rfl | less
  · have scaled : q / 2 ^ e ≤ q' / 2 ^ e := by gcongr
    have ordered : (m : ℚ) ≤ n := by exact_mod_cast at_e.nearest.mono at_e'.nearest scaled
    gcongr
  · have step : (2 : ℚ) ^ (e + 1) ≤ 2 ^ e' := zpow_le_zpow_right₀ (by norm_num) (by omega)
    rw [zpow_add_one₀ (by norm_num)] at step
    have high : (m : ℚ) ≤ 2 ^ 53 := by exact_mod_cast at_e.le_high
    have low : (2 : ℚ) ^ 52 ≤ n := by exact_mod_cast at_e'.low_le
    calc (m : ℚ) * 2 ^ e ≤ 2 ^ 53 * 2 ^ e := by gcongr
      _ = 2 ^ 52 * (2 ^ e * 2) := by ring
      _ ≤ n * 2 ^ e' := by gcongr

theorem Rounds.mono (rounds : Rounds q r) (rounds' : Rounds q' r') (le : q ≤ q') : r ≤ r' := by
  cases rounds with
  | zero =>
    cases rounds' with
    | zero => exact le
    | digits at_e => exact at_e.pos.2.le
  | digits at_e =>
    cases rounds' with
    | zero => exact absurd at_e.pos.1 le.not_gt
    | digits at_e' => exact at_e.mono at_e' le

theorem Rounds.unique (rounds : Rounds q r) (rounds' : Rounds q r') : r = r' :=
  le_antisymm (rounds.mono rounds' le_rfl) (rounds'.mono rounds le_rfl)

theorem roundsAt_of_eq (scaled : q / 2 ^ e = x) (low : 2 ^ 52 ≤ x) (high : x < 2 ^ 53)
    (nearest : IsNearest x n) : RoundsAt q e n := by
  subst scaled
  exact ⟨low, high, nearest⟩

theorem roundsAt_self (low : 2 ^ 52 ≤ n) (high : n < 2 ^ 53) (e : ℤ) :
    RoundsAt (n * 2 ^ e) e n := by
  have scaled : (n : ℚ) * 2 ^ e / 2 ^ e = n := mul_div_cancel_right₀ _ (pow_pos_two e).ne'
  have low : (2 : ℚ) ^ 52 ≤ n := by exact_mod_cast low
  have high : (n : ℚ) < 2 ^ 53 := by exact_mod_cast high
  exact roundsAt_of_eq scaled low high (isNearest_self n)

theorem exists_shift (positive : 0 < k) (short : k < 2 ^ 53) :
    ∃ s, 2 ^ 52 ≤ k * 2 ^ s ∧ k * 2 ^ s < 2 ^ 53 := by
  have log_lt : Nat.log 2 k < 53 := Nat.log_lt_of_lt_pow positive.ne' short
  have low := Nat.pow_log_le_self 2 positive.ne'
  have high := Nat.lt_pow_succ_log_self (by norm_num : 1 < 2) k
  have digits : 2 ^ Nat.log 2 k * 2 ^ (52 - Nat.log 2 k) = 2 ^ 52 := by
    rw [← Nat.pow_add, Nat.add_sub_cancel' (Nat.le_of_lt_succ log_lt)]
  refine ⟨52 - Nat.log 2 k, ?_, ?_⟩
  · rw [← digits]
    gcongr
  · calc k * 2 ^ (52 - Nat.log 2 k) < 2 ^ (Nat.log 2 k + 1) * 2 ^ (52 - Nat.log 2 k) := by gcongr
      _ = 2 ^ 52 * 2 := by rw [← digits]; ring
      _ = 2 ^ 53 := by norm_num

theorem rounds_self (short : k < 2 ^ 53) (e : ℤ) : Rounds (k * 2 ^ e) (k * 2 ^ e) := by
  rcases Nat.eq_zero_or_pos k with rfl | positive
  · rw [Nat.cast_zero, zero_mul]
    exact .zero
  obtain ⟨s, low, high⟩ := exists_shift positive short
  have shifted : (k : ℚ) * 2 ^ e = ((k * 2 ^ s : ℕ) : ℚ) * 2 ^ (e - s) := by
    rw [Nat.cast_mul, Nat.cast_pow, mul_assoc, ← zpow_natCast, Nat.cast_ofNat,
      ← zpow_add₀ (by norm_num), add_sub_cancel]
  rw [shifted]
  exact .digits (roundsAt_self low high _)

theorem rounds_zpow (e : ℤ) : Rounds (2 ^ e) (2 ^ e) := by
  have self := rounds_self (by norm_num : 1 < 2 ^ 53) e
  rwa [Nat.cast_one, one_mul] at self

theorem rounds_nat (short : k ≤ 2 ^ 53) : Rounds k k := by
  rcases short.lt_or_eq with less | rfl
  · have self := rounds_self less 0
    rwa [zpow_zero, mul_one] at self
  · exact_mod_cast rounds_zpow 53

theorem Rounds.one_le (rounds : Rounds n r) (positive : 0 < n) : 1 ≤ r := by
  have one : Rounds 1 1 := by exact_mod_cast rounds_nat (by norm_num : 1 ≤ 2 ^ 53)
  apply one.mono rounds
  exact_mod_cast positive

theorem Rounds.le_pow (rounds : Rounds n r) (le : n ≤ 2 ^ k) : r ≤ 2 ^ (k : ℤ) := by
  apply rounds.mono (rounds_zpow k)
  exact_mod_cast le

theorem Rounds.error (rounds : Rounds q r) : |r - q| ≤ q / 2 ^ 53 := by
  cases rounds with
  | zero => norm_num
  | @digits _ e n at_e =>
    have positive := pow_pos_two e
    have low := at_e.low_mul
    have above := at_e.nearest.above
    have below := at_e.nearest.below
    have scaled : q / 2 ^ e * 2 ^ e = q := div_mul_cancel₀ q positive.ne'
    apply abs_le.mpr
    constructor
    · nlinarith
    · nlinarith

theorem Rounds.exists_nat {a : ℕ} (rounds : Rounds a r) : ∃ n : ℕ, r = n := by
  generalize known : (a : ℚ) = q at rounds
  cases rounds with
  | zero => exact ⟨0, rfl⟩
  | @digits _ e n at_e =>
    rcases le_or_gt 0 e with whole | fraction
    · obtain ⟨s, rfl⟩ := Int.eq_ofNat_of_zero_le whole
      exact ⟨n * 2 ^ s, by push_cast; rw [zpow_natCast]⟩
    · obtain ⟨s, rfl⟩ : ∃ s : ℕ, e = -s := ⟨e.natAbs, by omega⟩
      have exact_at : IsNearest ((a * 2 ^ s : ℕ) : ℚ) n := by
        have nearest := at_e.nearest
        rw [← known, zpow_neg, div_inv_eq_mul, zpow_natCast] at nearest
        exact_mod_cast nearest
      refine ⟨a, ?_⟩
      rw [exact_at.unique (isNearest_self _), zpow_neg, zpow_natCast, Nat.cast_mul, Nat.cast_pow,
        Nat.cast_ofNat, mul_assoc, mul_inv_cancel₀ (by positivity), mul_one]

section Neighbours

theorem rounds_half (low : 2 ^ 52 ≤ n) (high : n < 2 ^ 53) :
    Rounds (n + 1 / 2) ((n + n % 2 : ℕ) : ℚ) := by
  have scaled : (n + 1 / 2 : ℚ) / 2 ^ (0 : ℤ) = n + 1 / 2 := by rw [zpow_zero, div_one]
  have low : (2 : ℚ) ^ 52 ≤ n := by exact_mod_cast low
  have high : (n : ℚ) + 1 ≤ 2 ^ 53 := by exact_mod_cast high
  have at_zero : RoundsAt (n + 1 / 2) 0 (n + n % 2) := by
    apply roundsAt_of_eq scaled _ _ (isNearest_half n)
    · linarith
    · linarith
  have rounds := Rounds.digits at_zero
  rwa [zpow_zero, mul_one] at rounds

variable {d : ℚ}

theorem rounds_add (low : 2 ^ 52 ≤ n) (high : n < 2 ^ 53) (more : 0 ≤ d) (little : d < 2 ^ e / 2) :
    Rounds (n * 2 ^ e + d) (n * 2 ^ e) := by
  have positive := pow_pos_two e
  have scaled : (n * 2 ^ e + d) / 2 ^ e = n + d / 2 ^ e := by
    rw [add_div, mul_div_cancel_right₀ _ positive.ne']
  have least : 0 ≤ d / 2 ^ e := by positivity
  have most : d / 2 ^ e < 1 / 2 := by
    rw [div_lt_iff₀ positive]
    linarith
  have low : (2 : ℚ) ^ 52 ≤ n := by exact_mod_cast low
  have high : (n : ℚ) + 1 ≤ 2 ^ 53 := by exact_mod_cast high
  have nearest : IsNearest (n + d / 2 ^ e) n := by
    apply isNearest_of_lt
    · linarith
    · linarith
  apply Rounds.digits
  apply roundsAt_of_eq scaled _ _ nearest
  · linarith
  · linarith

/-- A little less than a one and zeros has its digits one further. Half of the last one may lack. -/
theorem rounds_sub_pow (some : 0 < d) (little : d ≤ 2 ^ e / 4) :
    Rounds (2 ^ 52 * 2 ^ e - d) (2 ^ 52 * 2 ^ e) := by
  have positive := pow_pos_two (e - 1)
  have step : (2 : ℚ) ^ e = 2 * 2 ^ (e - 1) := by
    rw [zpow_sub_one₀ two_ne_zero]
    ring
  have same : (2 : ℚ) ^ 52 * 2 ^ e = (2 ^ 53 : ℕ) * 2 ^ (e - 1) := by
    rw [step]
    push_cast
    ring
  have scaled : (2 ^ 52 * 2 ^ e - d) / 2 ^ (e - 1) = (2 ^ 53 : ℕ) - d / 2 ^ (e - 1) := by
    rw [same, sub_div, mul_div_cancel_right₀ _ positive.ne']
  have least : 0 < d / 2 ^ (e - 1) := by positivity
  have most : d / 2 ^ (e - 1) ≤ 1 / 2 := by
    rw [div_le_iff₀ positive]
    linarith
  have even : Even (2 ^ 53 : ℕ) := by decide
  have nearest : IsNearest ((2 ^ 53 : ℕ) - d / 2 ^ (e - 1)) (2 ^ 53) :=
    ⟨by linarith, by linarith, fun _ => even⟩
  have digits : RoundsAt (2 ^ 52 * 2 ^ e - d) (e - 1) (2 ^ 53) := by
    apply roundsAt_of_eq scaled _ _ nearest
    · push_cast
      linarith
    · push_cast
      linarith
  have rounds := Rounds.digits digits
  rwa [← same] at rounds

theorem rounds_sub (low : 2 ^ 52 ≤ n) (high : n < 2 ^ 53) (some : 0 < d)
    (little : d ≤ 2 ^ e / 4) : Rounds (n * 2 ^ e - d) (n * 2 ^ e) := by
  have positive := pow_pos_two e
  rcases low.eq_or_lt with rfl | greater
  · push_cast
    exact rounds_sub_pow some little
  · have scaled : (n * 2 ^ e - d) / 2 ^ e = n - d / 2 ^ e := by
      rw [sub_div, mul_div_cancel_right₀ _ positive.ne']
    have least : 0 < d / 2 ^ e := by positivity
    have most : d / 2 ^ e ≤ 1 / 4 := by
      rw [div_le_iff₀ positive]
      linarith
    have low : (2 : ℚ) ^ 52 + 1 ≤ n := by exact_mod_cast greater
    have high : (n : ℚ) + 1 ≤ 2 ^ 53 := by exact_mod_cast high
    have nearest : IsNearest (n - d / 2 ^ e) n := by
      apply isNearest_of_lt
      · linarith
      · linarith
    apply Rounds.digits
    apply roundsAt_of_eq scaled _ _ nearest
    · linarith
    · linarith

end Neighbours

end AccessTrace.Double
