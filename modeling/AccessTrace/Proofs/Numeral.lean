import AccessTrace.Numeral

namespace AccessTrace.Numeral

variable {n value : Nat} {text : List Char}

theorem le_ofDigitChars (text : List Char) (value : Nat) :
    value ≤ Nat.ofDigitChars 10 text value := by
  rw [Nat.ofDigitChars_eq_ofDigitChars_zero]
  have grows : value ≤ 10 ^ text.length * value := Nat.le_mul_of_pos_left _ (Nat.pow_pos (by decide))
  omega

theorem isDigit_iff {c : Char} : c.isDigit = true ↔ 48 ≤ c.toNat ∧ c.toNat ≤ 57 := by
  simp only [Char.isDigit, Bool.and_eq_true, decide_eq_true_eq, ge_iff_le, UInt32.le_iff_toNat_le]
  rfl

theorem digit?_ten {c : Char} (digit : c.isDigit) : digit? 10 c = some (c.toNat - 48) := by
  obtain ⟨low, high⟩ := isDigit_iff.mp digit
  have bounds : '0' ≤ c ∧ c ≤ '9' := by
    simp only [Char.le_def, UInt32.le_iff_toNat_le]
    exact ⟨low, high⟩
  have small : c.toNat - 48 < 10 := by omega
  simp [digit?, bounds, small]

theorem digits_ten (all : ∀ c ∈ text, c.isDigit)
    (fits : Nat.ofDigitChars 10 text value < UInt64.size) :
    digits 10 value text = .ok (UInt64.ofNat (Nat.ofDigitChars 10 text value)) := by
  induction text generalizing value with
  | nil => simp [digits]
  | cons c rest ih =>
    obtain ⟨digit, all⟩ := List.forall_mem_cons.mp all
    rw [Nat.ofDigitChars_cons, Nat.mul_comm 10] at fits ⊢
    have more := Nat.lt_of_le_of_lt (le_ofDigitChars rest _) fits
    rw [digits, digit?_ten digit]
    exact (if_pos more).trans (ih all fits)

theorem inBase_ten_of_isDigit (some : text ≠ []) (all : ∀ c ∈ text, c.isDigit) :
    inBase 10 text = digits 10 0 text := by
  have plus : ¬ '+'.isDigit := by decide
  unfold inBase
  split
  · exact absurd rfl some
  · exact absurd (all '+' (by simp)) plus
  · exact absurd (all '+' (by simp)) plus
  · rfl

theorem isDigit_toDigits (n : Nat) : ∀ c ∈ Nat.toDigits 10 n, c.isDigit :=
  fun _ => Nat.isDigit_of_mem_toDigits (by decide) (by decide)

theorem decimal_toDigits (fits : n < UInt64.size) :
    decimal (Nat.toDigits 10 n) = .ok (UInt64.ofNat n) := by
  rw [decimal, inBase_ten_of_isDigit Nat.toDigits_ne_nil (isDigit_toDigits n),
    digits_ten (isDigit_toDigits n) (by rwa [Nat.ofDigitChars_ten_toDigits]),
    Nat.ofDigitChars_ten_toDigits]

theorem head_toDigits (positive : 0 < n) : (Nat.toDigits 10 n).head? ≠ some '0' := by
  induction n using Nat.strongRecOn with
  | ind n ih =>
    by_cases small : n < 10
    · rw [Nat.toDigits_of_lt_base small]
      simp
      omega
    · have front := ih (n / 10) (by omega) (by omega)
      rw [Nat.toDigits_of_base_le (by decide) (by omega), List.head?_append]
      cases digits : (Nat.toDigits 10 (n / 10)).head? with
      | none => exact absurd (List.head?_eq_none_iff.mp digits) Nat.toDigits_ne_nil
      | some c => simpa [digits] using front

end AccessTrace.Numeral
