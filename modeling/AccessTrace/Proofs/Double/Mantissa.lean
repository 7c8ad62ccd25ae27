import AccessTrace.Proofs.Double.Value

/-!
How a number is rounded: its mantissa is shifted until it has 53 digits, and two bits remember what
of the number is lost by that.
-/

namespace AccessTrace.Double

open Float.Model (Format UnpackedFloat)
open Float.Model.UnpackedFloat

section Mantissas

/-- The mantissa is the whole part of a number, and its two bits tell the rest: nothing, less than
one half, one half, or more. -/
def Tells (em : ExtendedMantissa) (x : ℚ) : Prop :=
  match em.roundBit, em.stickyBit with
  | false, false => x = em.mantissa
  | false, true => em.mantissa < x ∧ x < em.mantissa + 1 / 2
  | true, false => x = em.mantissa + 1 / 2
  | true, true => em.mantissa + 1 / 2 < x ∧ x < em.mantissa + 1

variable {em : ExtendedMantissa} {x : ℚ}

theorem tells_whole (m : ℕ) : Tells (.ofMantissaAndAccuracy m .exact) m := rfl

theorem Tells.whole (tells : Tells em x) : em.mantissa ≤ x ∧ x < em.mantissa + 1 := by
  obtain ⟨m, round, sticky⟩ := em
  cases round <;> cases sticky <;> simp only [Tells] at tells ⊢ <;> constructor <;> linarith

theorem Tells.isNearest (tells : Tells em x) : IsNearest x em.roundedMantissa := by
  obtain ⟨m, round, sticky⟩ := em
  match round, sticky with
  | false, false =>
    obtain rfl : x = m := tells
    exact isNearest_self m
  | false, true =>
    obtain ⟨low, high⟩ : (m : ℚ) < x ∧ x < m + 1 / 2 := tells
    have nearest : IsNearest x m := isNearest_of_lt (by linarith) high
    exact nearest
  | true, false =>
    obtain rfl : x = m + 1 / 2 := tells
    exact isNearest_half m
  | true, true =>
    obtain ⟨low, high⟩ : (m : ℚ) + 1 / 2 < x ∧ x < m + 1 := tells
    have nearest : IsNearest x (m + 1) := by
      apply isNearest_of_lt
      · push_cast
        linarith
      · push_cast
        linarith
    exact nearest

theorem Tells.shiftRightOne (tells : Tells em x) : Tells em.shiftRightOne (x / 2) := by
  obtain ⟨m, round, sticky⟩ := em
  have parts : (m : ℚ) = 2 * (m / 2 : ℕ) + (m % 2 : ℕ) := by
    exact_mod_cast (Nat.div_add_mod m 2).symm
  rcases Nat.mod_two_eq_zero_or_one m with even | odd
  · rw [even, Nat.cast_zero] at parts
    have shifted : (⟨m, round, sticky⟩ : ExtendedMantissa).shiftRightOne =
      ⟨m / 2, false, round || sticky⟩ := by simp [ExtendedMantissa.shiftRightOne, even]
    rw [shifted]
    cases round <;> cases sticky <;>
      simp only [Tells, Bool.or_false, Bool.or_true] at tells ⊢
    · linarith
    · constructor <;> linarith
    · constructor <;> linarith
    · constructor <;> linarith
  · rw [odd, Nat.cast_one] at parts
    have shifted : (⟨m, round, sticky⟩ : ExtendedMantissa).shiftRightOne =
      ⟨m / 2, true, round || sticky⟩ := by simp [ExtendedMantissa.shiftRightOne, odd]
    rw [shifted]
    cases round <;> cases sticky <;>
      simp only [Tells, Bool.or_false, Bool.or_true] at tells ⊢
    · linarith
    · constructor <;> linarith
    · constructor <;> linarith
    · constructor <;> linarith

theorem Tells.shiftRight (tells : Tells em x) (k : ℕ) : Tells (em >>> k) (x / 2 ^ k) := by
  induction k with
  | zero =>
    rw [pow_zero, div_one]
    exact tells
  | succ k ih =>
    rw [pow_succ, ← div_div]
    exact ih.shiftRightOne

end Mantissas

section Rounded

/-- The number is zero, or neither too small nor too great to be rounded to 53 digits. -/
structure Moderate (q : ℚ) : Prop where
  low : 0 < q → 2 ^ (-1000 : ℤ) ≤ q
  high : q ≤ 2 ^ (1000 : ℤ)

variable {q : ℚ} {m n k : ℕ} {e : ℤ} {accuracy : Accuracy}

theorem moderate_of_le {least most : ℤ} (low : 0 < q → 2 ^ least ≤ q) (high : q ≤ 2 ^ most)
    (above : -1000 ≤ least) (below : most ≤ 1000) : Moderate q where
  low positive := (zpow_le_zpow_right₀ (by norm_num) above).trans (low positive)
  high := high.trans (zpow_le_zpow_right₀ (by norm_num) below)

theorem moderate_nat (fits : n < 2 ^ 64) : Moderate n := by
  have high : (n : ℚ) ≤ 2 ^ (64 : ℤ) := by exact_mod_cast fits.le
  have low (positive : 0 < (n : ℚ)) : (2 : ℚ) ^ (0 : ℤ) ≤ n := by
    rw [zpow_zero]
    exact_mod_cast positive
  exact moderate_of_le low high (by norm_num) (by norm_num)

theorem moderate_zero : Moderate 0 := by
  exact_mod_cast moderate_nat (by norm_num : 0 < 2 ^ 64)

theorem Moderate.exponent_gt (moderate : Moderate q) (positive : 0 < q)
    (less : q < 2 ^ k * 2 ^ e) : -1000 < k + e := by
  have low := (moderate.low positive).trans_lt less
  rwa [← zpow_natCast, ← zpow_add₀ (by norm_num), zpow_lt_zpow_iff_right₀ (by norm_num)] at low

theorem Moderate.exponent_le (moderate : Moderate q) (le : 2 ^ k * 2 ^ e ≤ q) : k + e ≤ 1000 := by
  have high := le.trans moderate.high
  rwa [← zpow_natCast, ← zpow_add₀ (by norm_num), zpow_le_zpow_iff_right₀ (by norm_num)] at high

theorem targetExponent_eq (t : ℤ) : Format.binary64.targetExponent t = max (t - 53) (-1074) :=
  rfl

theorem mantissa_of (m : ℕ) (accuracy : Accuracy) :
    (ExtendedMantissa.ofMantissaAndAccuracy m accuracy).mantissa = m := by
  cases accuracy with
  | exact => rfl
  | inexact order => cases order <;> rfl

theorem roundsAt_shiftRight {em : ExtendedMantissa} (tells : Tells em (q / 2 ^ e))
    (low : 2 ^ (52 + k) ≤ em.mantissa) (high : em.mantissa < 2 ^ (53 + k)) :
    RoundsAt q (e + k) (em >>> k).roundedMantissa := by
  have shifted : q / 2 ^ (e + k) = q / 2 ^ e / 2 ^ k := by
    rw [zpow_add₀ (by norm_num), zpow_natCast, div_div]
  obtain ⟨below, above⟩ := tells.whole
  constructor
  · rw [shifted, le_div_iff₀ (by positivity), ← pow_add]
    have low : (2 : ℚ) ^ (52 + k) ≤ em.mantissa := by exact_mod_cast low
    exact low.trans below
  · rw [shifted, div_lt_iff₀ (by positivity), ← pow_add]
    have high : (em.mantissa : ℚ) + 1 ≤ 2 ^ (53 + k) := by exact_mod_cast high
    exact above.trans_le high
  · rw [shifted]
    exact (tells.shiftRight k).isNearest

theorem shiftToTargetExponent_eq (accuracy : Accuracy) (digits : m.log2 = 52 + k)
    (least : -1074 ≤ e + k) :
    shiftToTargetExponent .binary64 m e accuracy =
      (ExtendedMantissa.ofMantissaAndAccuracy m accuracy >>> k, e + k) := by
  have amount : (Format.binary64.targetExponent (Float.Model.totalExponent m e) - e).toNat = k := by
    rw [targetExponent_eq, Float.Model.totalExponent, digits]
    omega
  simp only [shiftToTargetExponent, shiftToExponent, amount]

/-- Rounding may give one more digit, which is then dropped. -/
theorem shift_rounded (low : 2 ^ 52 ≤ n) (high : n ≤ 2 ^ 53) (least : -1053 < e) :
    ∃ em k, shiftToTargetExponent .binary64 n e .exact = (em, e + (k : ℕ)) ∧ k ≤ 1 ∧
      2 ^ 52 ≤ em.mantissa ∧ em.mantissa < 2 ^ 53 ∧
      (em.mantissa : ℚ) * 2 ^ (e + (k : ℤ)) = n * 2 ^ e := by
  rcases high.lt_or_eq with short | rfl
  · have digits : n.log2 = 52 := (Nat.log2_eq_iff (by omega)).mpr ⟨low, short⟩
    have stays := shiftToTargetExponent_eq (e := e) (k := 0) .exact digits (by omega)
    refine ⟨_, 0, stays, Nat.zero_le 1, low, short, ?_⟩
    rw [Nat.cast_zero, add_zero]
    rfl
  · have digits : (2 ^ 53).log2 = 52 + 1 := Nat.log2_two_pow
    have shifted := shiftToTargetExponent_eq (e := e) (k := 1) .exact digits (by omega)
    refine ⟨_, 1, shifted, le_rfl, le_rfl, by decide, ?_⟩
    have half : (ExtendedMantissa.ofMantissaAndAccuracy (2 ^ 53) .exact >>> 1).mantissa =
      2 ^ 52 := rfl
    rw [half, Nat.cast_one, zpow_add_one₀ (by norm_num)]
    push_cast
    ring

/-- What is computed of a number is the one next to it. -/
theorem roundWithAccuracy_spec (moderate : Moderate q) (wide : 2 ^ 52 ≤ m)
    (tells : Tells (.ofMantissaAndAccuracy m accuracy) (q / 2 ^ e)) :
    ∃ r, Rounds q r ∧ Stands (roundWithAccuracy .binary64 .positive m e accuracy) r := by
  have positive : m ≠ 0 := by omega
  obtain ⟨k, digits⟩ := Nat.exists_eq_add_of_le ((Nat.le_log2 positive).mpr wide)
  have low := Nat.log2_self_le positive
  have high := m.lt_log2_self
  rw [digits] at low high
  rw [Nat.add_right_comm] at high
  have at_e : RoundsAt q (e + k) _ :=
    roundsAt_shiftRight tells (by rwa [mantissa_of]) (by rwa [mantissa_of])
  have least := moderate.exponent_gt at_e.pos.1 at_e.lt_mul
  have most := moderate.exponent_le at_e.low_mul
  have first := shiftToTargetExponent_eq (e := e) accuracy digits (by omega)
  obtain ⟨em, up, second, small, low, high, same⟩ :=
    shift_rounded (e := e + k) at_e.low_le at_e.le_high (by omega)
  have nonzero : em.mantissa ≠ 0 := by omega
  refine ⟨_, .digits at_e, ?_⟩
  simp only [roundWithAccuracy, first, second, dif_neg nonzero]
  rw [← same]
  exact .normal _ low high (by omega) (by omega)

theorem shiftLeft_mul (m s : ℕ) (e : ℤ) : ((m <<< s : ℕ) : ℚ) * 2 ^ (e - s) = m * 2 ^ e := by
  rw [Nat.shiftLeft_eq, Nat.cast_mul, Nat.cast_pow, mul_assoc, ← zpow_natCast, Nat.cast_ofNat,
    ← zpow_add₀ (by norm_num), add_sub_cancel]

theorem round_spec (positive : 0 < m) (moderate : Moderate (m * 2 ^ e)) :
    ∃ r, Rounds (m * 2 ^ e) r ∧ Stands (UnpackedFloat.round .binary64 .positive m e) r := by
  have low := Nat.log2_self_le positive.ne'
  have high := m.lt_log2_self
  have below : (m : ℚ) * 2 ^ e < 2 ^ (m.log2 + 1) * 2 ^ e := by
    have high : (m : ℚ) < 2 ^ (m.log2 + 1) := by exact_mod_cast high
    gcongr
  have least := moderate.exponent_gt (mantissa_pos positive e) below
  have amount : (e - Format.binary64.targetExponent (Float.Model.totalExponent m e)).toNat =
      52 - m.log2 := by
    rw [targetExponent_eq, Float.Model.totalExponent]
    omega
  have wide : 2 ^ 52 ≤ m <<< (52 - m.log2) := by
    rw [Nat.shiftLeft_eq]
    calc 2 ^ 52 ≤ 2 ^ (m.log2 + (52 - m.log2)) := Nat.pow_le_pow_right (by norm_num) (by omega)
      _ = 2 ^ m.log2 * 2 ^ (52 - m.log2) := Nat.pow_add ..
      _ ≤ m * 2 ^ (52 - m.log2) := Nat.mul_le_mul_right _ low
  have same := shiftLeft_mul m (52 - m.log2) e
  simp only [UnpackedFloat.round, decreaseExponent, amount]
  apply roundWithAccuracy_spec moderate wide
  rw [← same, mul_div_cancel_right₀ _ (pow_pos_two _).ne']
  exact tells_whole _

theorem normalize_spec {n : ℤ} (natural : 0 ≤ n) (moderate : Moderate (n * 2 ^ e)) :
    ∃ r, Rounds (n * 2 ^ e) r ∧ Stands (UnpackedFloat.normalize .binary64 n e .positive) r := by
  obtain ⟨m, rfl⟩ := Int.eq_ofNat_of_zero_le natural
  rw [Int.cast_natCast] at *
  rcases Nat.eq_zero_or_pos m with rfl | positive
  · rw [Nat.cast_zero, zero_mul]
    exact ⟨0, .zero, .zero⟩
  · have greater : compare (m : ℤ) 0 = .gt := Int.compare_eq_gt.mpr (by omega)
    simp only [UnpackedFloat.normalize, greater, Int.toNat_natCast]
    exact round_spec positive moderate

end Rounded

end AccessTrace.Double
