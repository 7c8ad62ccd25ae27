import AccessTrace.Proofs.Double.Mantissa

namespace AccessTrace.Double

open Float.Model (Format UnpackedFloat)
open Float.Model.UnpackedFloat

section Operations

variable {x y : Float} {v w : ℚ}

theorem hasValue_toFloat (n : UInt64) : ∃ r, Rounds n.toNat r ∧ HasValue n.toFloat r := by
  have moderate : Moderate (((n.toNat : ℤ) : ℚ) * 2 ^ (0 : ℤ)) := by
    rw [zpow_zero, mul_one, Int.cast_natCast]
    exact moderate_nat n.toNat_lt
  obtain ⟨r, rounds, stands⟩ := normalize_spec (Int.natCast_nonneg _) moderate
  rw [zpow_zero, mul_one, Int.cast_natCast] at rounds
  exact ⟨r, rounds, _, stands, rfl⟩

theorem HasValue.binary {op : UnpackedFloat → UnpackedFloat → UnpackedFloat} {q : ℚ}
    (has : HasValue x v) (has' : HasValue y w)
    (spec : ∀ u u', Stands u v → Stands u' w → ∃ r, Rounds q r ∧ Stands (op u u') r) :
    ∃ r, Rounds q r ∧
      HasValue (.ofModel (.pack (op x.toModel.unpack y.toModel.unpack))) r := by
  obtain ⟨u, stands, rfl⟩ := has
  obtain ⟨u', stands', rfl⟩ := has'
  rw [unpack_pack stands, unpack_pack stands']
  obtain ⟨r, rounds, made⟩ := spec u u' stands stands'
  exact ⟨r, rounds, _, made, rfl⟩

theorem decreaseExponent_fst {m : ℕ} {e t : ℤ} (le : t ≤ e) :
    ((decreaseExponent m e t).1 : ℚ) * 2 ^ t = m * 2 ^ e := by
  obtain ⟨s, rfl⟩ := Int.le.dest le
  have amount : (t + s - t).toNat = s := by omega
  have same := shiftLeft_mul m s (t + s)
  rw [add_sub_cancel_right] at same
  simp only [decreaseExponent, amount]
  exact same

theorem hasValue_add (has : HasValue x v) (has' : HasValue y w) (moderate : Moderate (v + w)) :
    ∃ r, Rounds (v + w) r ∧ HasValue (x + y) r := by
  apply has.binary has'
  intro u u' stands stands'
  cases stands with
  | zero =>
    rw [zero_add]
    cases stands' with
    | zero => exact ⟨0, .zero, .zero⟩
    | normal positive low high least most =>
      exact ⟨_, rounds_self high _, .normal positive low high least most⟩
  | @normal m e positive low high least most =>
    cases stands' with
    | zero =>
      rw [add_zero]
      exact ⟨_, rounds_self high _, .normal positive low high least most⟩
    | @normal m' e' =>
      let t := min e e'
      have first : _ = (m : ℚ) * 2 ^ e := decreaseExponent_fst (min_le_left e e')
      have second : _ = (m' : ℚ) * 2 ^ e' := decreaseExponent_fst (min_le_right e e')
      rw [← first, ← second, ← add_mul] at moderate ⊢
      exact_mod_cast normalize_spec (n := (decreaseExponent m e t).1 + (decreaseExponent m' e' t).1)
        (by omega) (by exact_mod_cast moderate)

theorem hasValue_sub (has : HasValue x v) (has' : HasValue y w) (le : w ≤ v)
    (moderate : Moderate (v - w)) : ∃ r, Rounds (v - w) r ∧ HasValue (x - y) r := by
  apply has.binary has'
  intro u u' stands stands'
  cases stands with
  | zero =>
    cases stands' with
    | zero =>
      rw [sub_zero]
      exact ⟨0, .zero, .zero⟩
    | normal positive => exact absurd le (mantissa_pos positive _).not_ge
  | @normal m e positive low high least most =>
    cases stands' with
    | zero =>
      rw [sub_zero]
      exact ⟨_, rounds_self high _, .normal positive low high least most⟩
    | @normal m' e' =>
      let t := min e e'
      have first : _ = (m : ℚ) * 2 ^ e := decreaseExponent_fst (min_le_left e e')
      have second : _ = (m' : ℚ) * 2 ^ e' := decreaseExponent_fst (min_le_right e e')
      rw [← first, ← second, ← sub_mul] at moderate ⊢
      rw [← first, ← second, mul_le_mul_iff_left₀ (pow_pos_two _)] at le
      have ordered : (decreaseExponent m' e' t).1 ≤ (decreaseExponent m e t).1 := by
        exact_mod_cast le
      have natural : (0 : ℤ) ≤ (decreaseExponent m e t).1 - (decreaseExponent m' e' t).1 := by
        omega
      have spec := normalize_spec (e := t) natural (by push_cast; exact moderate)
      push_cast at spec
      exact spec

theorem hasValue_sub_self (has : HasValue x v) : HasValue (x - x) 0 := by
  have moderate : Moderate (v - v) := by
    rw [sub_self]
    exact moderate_zero
  obtain ⟨r, rounds, has⟩ := hasValue_sub has has le_rfl moderate
  rw [sub_self] at rounds
  rwa [rounds.unique .zero] at has

theorem tells_fraction (m : ℕ) {k n : ℕ} (less : k < n) :
    Tells (.ofMantissaAndAccuracy m (accuracyOfFraction k n)) (m + k / n) := by
  have divisor : (0 : ℚ) < n := by exact_mod_cast Nat.zero_lt_of_lt less
  have proper : (k : ℚ) / n < 1 := by
    rw [div_lt_one divisor]
    exact_mod_cast less
  rcases Nat.eq_zero_or_pos k with rfl | positive
  · rw [Nat.cast_zero, zero_div, add_zero]
    exact tells_whole m
  have some : (0 : ℚ) < k / n := by positivity
  rw [accuracyOfFraction, if_neg positive.ne']
  cases order : compare (2 * k) n with
  | lt =>
    have half : (k : ℚ) / n < 1 / 2 := by
      rw [div_lt_div_iff₀ divisor two_pos, one_mul, mul_comm]
      exact_mod_cast Nat.compare_eq_lt.mp order
    have told : (m : ℚ) < m + k / n ∧ (m : ℚ) + k / n < m + 1 / 2 := by
      constructor <;> linarith
    exact told
  | eq =>
    have half : (k : ℚ) / n = 1 / 2 := by
      rw [div_eq_div_iff divisor.ne' two_pos.ne', one_mul, mul_comm]
      exact_mod_cast Nat.compare_eq_eq.mp order
    have told : (m : ℚ) + k / n = m + 1 / 2 := by rw [half]
    exact told
  | gt =>
    have half : 1 / 2 < (k : ℚ) / n := by
      rw [div_lt_div_iff₀ two_pos divisor, one_mul, mul_comm]
      exact_mod_cast Nat.compare_eq_gt.mp order
    have told : (m : ℚ) + 1 / 2 < m + k / n ∧ (m : ℚ) + k / n < m + 1 := by
      constructor <;> linarith
    exact told

theorem tells_quotient (m : ℕ) {n : ℕ} (positive : 0 < n) :
    Tells (.ofMantissaAndAccuracy (m / n) (accuracyOfFraction (m % n) n)) (m / n) := by
  have divisor : (n : ℚ) ≠ 0 := by exact_mod_cast positive.ne'
  have whole : (n : ℚ) * (m / n : ℕ) + (m % n : ℕ) = m := by exact_mod_cast Nat.div_add_mod m n
  have parts : (m : ℚ) / n = (m / n : ℕ) + (m % n : ℕ) / n := by
    rw [← whole, add_div, mul_div_cancel_left₀ _ divisor]
  rw [parts]
  exact tells_fraction _ (Nat.mod_lt m positive)

theorem divCore_eq {m m' : ℕ} {e e' : ℤ} (digits : m.log2 = 52) (digits' : m'.log2 = 52)
    (least : -1021 ≤ e - e') :
    divCore .binary64 m e m' e' =
      (m <<< 53 / m', e - e' - 53, accuracyOfFraction (m <<< 53 % m') m') := by
  have target : min (e - e') (Format.binary64.targetExponent
      (Float.Model.totalExponent m e - Float.Model.totalExponent m' e')) = e - e' - 53 := by
    simp only [targetExponent_eq, Float.Model.totalExponent, digits, digits']
    omega
  have amount : (e - e' - (e - e' - 53)).toNat = 53 := by omega
  simp only [divCore, target, amount]

theorem roundWithAccuracy_divCore {m m' : ℕ} {e e' : ℤ} (low : 2 ^ 52 ≤ m) (high : m < 2 ^ 53)
    (low' : 2 ^ 52 ≤ m') (high' : m' < 2 ^ 53) (moderate : Moderate (m / m' * 2 ^ (e - e'))) :
    ∃ r, Rounds (m / m' * 2 ^ (e - e')) r ∧ ∃ n d accuracy, divCore .binary64 m e m' e' =
      (n, d, accuracy) ∧ Stands (roundWithAccuracy .binary64 .positive n d accuracy) r := by
  have positive : 0 < m := by omega
  have positive' : 0 < m' := by omega
  have digits : m.log2 = 52 := (Nat.log2_eq_iff positive.ne').mpr ⟨low, high⟩
  have digits' : m'.log2 = 52 := (Nat.log2_eq_iff positive'.ne').mpr ⟨low', high'⟩
  have less : (m : ℚ) / m' < 2 ^ 1 := by
    rw [div_lt_iff₀ (by positivity)]
    exact_mod_cast (by omega : m < 2 ^ 1 * m')
  have below : (m : ℚ) / m' * 2 ^ (e - e') < 2 ^ 1 * 2 ^ (e - e') := by gcongr
  have least := moderate.exponent_gt (by positivity) below
  have core : divCore .binary64 m e m' e' = _ := divCore_eq digits digits' (by omega)
  have wide : 2 ^ 52 ≤ m <<< 53 / m' := by
    rw [Nat.le_div_iff_mul_le positive', Nat.shiftLeft_eq]
    exact Nat.mul_le_mul low high'.le
  have scaled : ((m <<< 53 : ℕ) : ℚ) / m' =
      m / m' * (2 : ℚ) ^ (e - e') / (2 : ℚ) ^ (e - e' - 53) := by
    have same := shiftLeft_mul m 53 (e - e')
    rw [div_mul_eq_mul_div, ← same, mul_div_right_comm]
    exact (mul_div_cancel_right₀ _ (pow_pos_two _).ne').symm
  -- the shifted mantissa is a number of many digits, which nothing should try to compute
  generalize m <<< 53 = shifted at core wide scaled
  have tells := tells_quotient shifted positive'
  rw [scaled] at tells
  obtain ⟨r, rounds, stands⟩ := roundWithAccuracy_spec moderate wide tells
  exact ⟨r, rounds, _, _, _, core, stands⟩

theorem hasValue_div (has : HasValue x v) (has' : HasValue y w) (positive : 0 < w)
    (moderate : Moderate (v / w)) : ∃ r, Rounds (v / w) r ∧ HasValue (x / y) r := by
  apply has.binary has'
  intro u u' stands stands'
  cases stands' with
  | zero => exact absurd positive (lt_irrefl 0)
  | @normal m' e' positive' low' high' =>
    cases stands with
    | zero =>
      rw [zero_div]
      exact ⟨0, .zero, .zero⟩
    | @normal m e positive low high =>
      have quotient : (m : ℚ) * 2 ^ e / (m' * 2 ^ e') = m / m' * 2 ^ (e - e') := by
        rw [zpow_sub₀ two_ne_zero]
        field_simp
      rw [quotient] at moderate ⊢
      obtain ⟨r, rounds, n, d, accuracy, core, made⟩ :=
        roundWithAccuracy_divCore low high low' high' moderate
      refine ⟨r, rounds, ?_⟩
      simp only [UnpackedFloat.div, core]
      exact made

theorem roundToInt_spec (m : ℕ) (e : ℤ) :
    ∃ n : ℕ, roundToInt .positive m e = n ∧ (n : ℚ) ≤ m * 2 ^ e ∧ (m : ℚ) * 2 ^ e < n + 1 := by
  obtain ⟨s, left⟩ : ∃ s, (e - 0).toNat = s := ⟨_, rfl⟩
  obtain ⟨k, right⟩ : ∃ k, (0 - (e - s)).toNat = k := ⟨_, rfl⟩
  have value : ((m <<< s : ℕ) : ℚ) / 2 ^ k = m * 2 ^ e := by
    have exponent : e - s = -k := by omega
    rw [← shiftLeft_mul m s e, exponent, zpow_neg, zpow_natCast, div_eq_mul_inv]
  obtain ⟨below, above⟩ := ((tells_whole (m <<< s)).shiftRight k).whole
  rw [value] at below above
  refine ⟨_, ?_, below, above⟩
  simp only [roundToInt, decreaseExponent, shiftToExponent, left, right]
  rfl

theorem toUInt64_zero (has : HasValue x 0) : x.toUInt64 = 0 := by
  have zero : HasValue (.ofModel (.pack (.zero .positive))) 0 := ⟨_, .zero, rfl⟩
  rw [has.unique zero]
  rfl

theorem toUInt64_div_zero (has : HasValue x 0) (has' : HasValue y 0) : (x / y).toUInt64 = 0 := by
  have zero : HasValue (.ofModel (.pack (.zero .positive))) 0 := ⟨_, .zero, rfl⟩
  rw [has.unique zero, has'.unique zero]
  decide +kernel

theorem hasValue_half : HasValue 0.5 (1 / 2) := by
  have same : (0.5 : Float) = .ofModel (.pack (.finite .positive (2 ^ 52) (-53) (by decide))) := by
    decide +kernel
  have half : (1 / 2 : ℚ) = ((2 ^ 52 : ℕ) : ℚ) * 2 ^ (-53 : ℤ) := by norm_num
  rw [same, half]
  exact ⟨_, .normal _ le_rfl (by decide) (by decide) (by decide), rfl⟩

theorem zero_lt_iff (has : HasValue x v) : 0 < x ↔ 0 < v := by
  obtain ⟨u, stands, rfl⟩ := has
  have zero : (0 : Float).toModel = .pack (.zero .positive) := by decide +kernel
  have compared : 0 < Float.ofModel (.pack u) ↔
      (0 : Float).toModel.unpack.lt (Float.Model.pack u).unpack := decide_eq_true_iff
  rw [compared, zero, unpack_pack .zero, unpack_pack stands]
  cases stands with
  | zero => exact iff_of_false (by decide) (lt_irrefl 0)
  | normal positive => exact iff_of_true rfl (mantissa_pos positive _)

theorem toNat_ofNatClamp (n : ℕ) : (UInt64.ofNatClamp n).toNat = min n (UInt64.size - 1) := by
  unfold UInt64.ofNatClamp
  split
  · next fits =>
    rw [UInt64.toNat_ofNatLT]
    omega
  · next exceeds =>
    rw [UInt64.toNat_ofNatLT]
    omega

theorem le_toUInt64 {n : ℕ} (has : HasValue x v) (le : n ≤ v) (fits : n < 2 ^ 64) :
    n ≤ x.toUInt64.toNat := by
  obtain ⟨u, stands, rfl⟩ := has
  have unpacked : (Float.ofModel (.pack u)).toUInt64 = u.toUInt64 :=
    congrArg UnpackedFloat.toUInt64 (unpack_pack stands)
  rw [unpacked]
  cases stands with
  | zero =>
    have none : n ≤ 0 := by exact_mod_cast le
    omega
  | @normal m e =>
    obtain ⟨k, whole, -, above⟩ := roundToInt_spec m e
    have less : n < k + 1 := by exact_mod_cast le.trans_lt above
    simp only [UnpackedFloat.toUInt64, UnpackedFloat.toInt, whole, Int.toNat_natCast,
      toNat_ofNatClamp]
    have size : UInt64.size = 2 ^ 64 := rfl
    omega

end Operations

end AccessTrace.Double
