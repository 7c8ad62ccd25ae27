import AccessTrace.Proofs.Double.Rounding

namespace AccessTrace.Double

open Float.Model (Format UnpackedFloat)
open Float.Model.UnpackedFloat

/-- The value of zero or of a normal positive number. -/
inductive Stands : UnpackedFloat → ℚ → Prop where
  | zero : Stands (.zero .positive) 0
  | normal {m : ℕ} {e : ℤ} (positive : 0 < m) (low : 2 ^ 52 ≤ m) (high : m < 2 ^ 53)
      (least : -1074 ≤ e) (most : e ≤ 971) :
      Stands (.finite .positive m e positive) (m * 2 ^ e)

def HasValue (x : Float) (v : ℚ) : Prop :=
  ∃ u, Stands u v ∧ x = .ofModel (.pack u)

section Packing

theorem sign_packComponents (sign : Sign) (exponent : BitVec 11) (mantissa : BitVec 52) :
    Sign.ofBitVec (unpackSign (packComponents .binary64 sign exponent mantissa)) = sign := by
  simp only [unpackSign, packComponents, BitVec.extractLsb]
  rw [BitVec.extractLsb'_append_eq_of_le (by omega), BitVec.extractLsb'_append_eq_of_le (by omega)]
  cases sign <;> rfl

theorem toNat_leading {m : ℕ} (low : 2 ^ 52 ≤ m) (high : m < 2 ^ 53) :
    (1#1 ++ BitVec.ofNat 52 m).toNat = m := by
  rw [BitVec.toNat_append, ← Nat.shiftLeft_add_eq_or_of_lt (BitVec.isLt _)]
  simp only [BitVec.toNat_ofNat, Nat.shiftLeft_eq]
  omega

theorem unpack_pack_normal {m : ℕ} {e : ℤ} (positive : 0 < m) (low : 2 ^ 52 ≤ m)
    (high : m < 2 ^ 53) (least : -1074 ≤ e) (most : e ≤ 971) :
    unpack .binary64 (pack .binary64 (.finite .positive m e positive)) =
      .finite .positive m e positive := by
  have bias : ((Format.binary64.exponentBias : ℕ) : ℤ) + (52 : ℕ) = 1075 := rfl
  obtain ⟨biased, stored⟩ : ∃ biased : ℕ, e + 1075 = biased := Int.eq_ofNat_of_zero_le (by omega)
  have digits : m.log2 + 1 = 53 := by
    rw [(Nat.log2_eq_iff positive.ne').mpr ⟨low, high⟩]
  have kept : (BitVec.ofNat 11 biased).toNat = biased := by
    rw [BitVec.toNat_ofNat, Nat.mod_eq_of_lt (by omega)]
  have not_all : BitVec.ofNat 11 biased ≠ -1#11 := by
    intro all
    have number := congrArg BitVec.toNat all
    rw [kept] at number
    have top : (-1#11).toNat = 2047 := rfl
    omega
  have not_zero : BitVec.ofNat 11 biased ≠ 0#11 := by
    intro zero
    have number := congrArg BitVec.toNat zero
    rw [kept, BitVec.toNat_zero] at number
    omega
  have packed : pack .binary64 (.finite .positive m e positive) =
      packComponents .binary64 .positive (BitVec.ofNat 11 biased) (BitVec.ofNat 52 m) := by
    have number : (e + Format.binary64.exponentBias + (52 : ℕ)).toNat = biased := by omega
    have whole : m.log2 + 1 = Format.binary64.mantissaBits := digits
    simp only [pack, number, if_pos whole, if_neg (by omega : ¬ 2 ^ 11 ≤ biased + 1)]
  rw [packed]
  simp only [unpack, unpackMantissa_packComponents, unpackExponent_packComponents,
    sign_packComponents, if_neg not_all, if_neg not_zero, toNat_leading low high, kept]
  have exponent : (biased : ℤ) - (Format.binary64.exponentBias + (52 : ℕ)) = e := by omega
  simp only [exponent]

theorem unpack_pack {u : UnpackedFloat} {v : ℚ} (stands : Stands u v) :
    (Float.Model.pack u).unpack = u := by
  cases stands with
  | zero => rfl
  | normal positive low high least most =>
    exact unpack_pack_normal positive low high least most

theorem mantissa_pos {m : ℕ} (positive : 0 < m) (e : ℤ) : (0 : ℚ) < m * 2 ^ e := by
  positivity

theorem Stands.unique {u u' : UnpackedFloat} {v v' : ℚ} (stands : Stands u v)
    (stands' : Stands u' v') (same : v = v') : u = u' := by
  cases stands with
  | zero =>
    cases stands' with
    | zero => rfl
    | normal positive => exact absurd same (mantissa_pos positive _).ne
  | @normal m e positive low high =>
    cases stands' with
    | zero => exact absurd same (mantissa_pos positive _).ne'
    | @normal m' e' positive' low' high' =>
      have at_e := roundsAt_self low high e
      have at_e' := roundsAt_self low' high' e'
      obtain rfl := le_antisymm (at_e.exponent_le at_e' same.le) (at_e'.exponent_le at_e same.ge)
      have digits : (m : ℚ) = m' := mul_right_cancel₀ (pow_pos_two e).ne' same
      obtain rfl : m = m' := by exact_mod_cast digits
      rfl

theorem HasValue.value_unique {x : Float} {v w : ℚ} (has : HasValue x v) (has' : HasValue x w) :
    v = w := by
  obtain ⟨u, stands, rfl⟩ := has
  obtain ⟨u', stands', same⟩ := has'
  have unpacked := congrArg (fun x : Float => x.toModel.unpack) same
  simp only [unpack_pack stands, unpack_pack stands'] at unpacked
  subst unpacked
  cases stands with
  | zero => cases stands'; rfl
  | normal => cases stands'; rfl

theorem HasValue.unique {x y : Float} {v : ℚ} (has : HasValue x v) (has' : HasValue y v) :
    x = y := by
  obtain ⟨u, stands, rfl⟩ := has
  obtain ⟨u', stands', rfl⟩ := has'
  rw [stands.unique stands' rfl]

end Packing

end AccessTrace.Double
