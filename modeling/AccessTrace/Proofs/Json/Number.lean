import AccessTrace.Proofs.Json.Scan
import AccessTrace.Proofs.Numeral

namespace AccessTrace.Json

variable {text : List Char} {value n : Nat}

theorem toNat_octet {c : Char} (digit : c.isDigit) : (octet c).toNat = c.toNat := by
  have bounds := Numeral.isDigit_iff.mp digit
  rw [octet, UInt8.toNat_ofNat']
  omega

theorem isDigit_octet {c : Char} (digit : c.isDigit) : isDigit (octet c) = true := by
  have bounds := Numeral.isDigit_iff.mp digit
  have value := toNat_octet digit
  simp only [isDigit, Bool.and_eq_true, decide_eq_true_eq, UInt8.le_iff_toNat_le, value]
  exact bounds

theorem ne_of_isDigit {b c : UInt8} (digit : isDigit b = true) (other : isDigit c = false) :
    b ≠ c := by
  rintro rfl
  exact Bool.noConfusion (digit.symm.trans other)

theorem isBlank_of_isDigit {b : UInt8} (digit : isDigit b = true) : isBlank b = false := by
  simp only [isBlank, Bool.or_eq_false_iff, beq_eq_false_iff_ne, ne_eq]
  have apart (c : UInt8) (other : isDigit c = false) := ne_of_isDigit digit other
  exact ⟨⟨⟨apart _ (by decide), apart _ (by decide)⟩, apart _ (by decide)⟩, apart _ (by decide)⟩

theorem IsClosing.isDigit {b : UInt8} (closing : IsClosing b) : isDigit b = false := by
  obtain rfl | rfl | rfl := closing <;> decide

theorem whole_map_octet (all : ∀ c ∈ text, c.isDigit)
    (fits : Nat.ofDigitChars 10 text value < UInt64.size) :
    Significand.whole value (text.map octet) = ⟨Nat.ofDigitChars 10 text value, 0⟩ := by
  induction text generalizing value with
  | nil => simp [Significand.whole]
  | cons c rest ih =>
    obtain ⟨digit, all⟩ := List.forall_mem_cons.mp all
    have same : value * 10 + digitValue (octet c) = 10 * value + (c.toNat - 48) := by
      rw [digitValue, toNat_octet digit]
      omega
    rw [Nat.ofDigitChars_cons] at fits ⊢
    have more := Nat.lt_of_le_of_lt (Numeral.le_ofDigitChars rest _) fits
    rw [List.map_cons, Significand.whole, same]
    exact (if_pos more).trans (ih all fits)

open Scan

theorem takes_digits (all : ∀ c ∈ text, c.isDigit) :
    Takes Closes (takeWhile isDigit) (text.map octet) (text.map octet) := by
  refine takes_takeWhile ?_ ?_
  · intro b member
    obtain ⟨c, inside, rfl⟩ := List.mem_map.mp member
    exact isDigit_octet (all c inside)
  · rintro _ ⟨b, rest, rfl, closing⟩
    exact closing.isDigit

theorem takes_wholePart (n : Nat) :
    Takes Closes Number.wholePart ((Nat.toDigits 10 n).map octet)
      ((Nat.toDigits 10 n).map octet) := by
  by_cases zero : n = 0
  · subst zero
    refine (takes_next (octet '0')).bind_nil (takes_of_peek_behind fun c closing => ?_)
    simp only [closing.isDigit]
    exact takes_pure _
  · have front := Numeral.head_toDigits (Nat.pos_of_ne_zero zero)
    have all := Numeral.isDigit_toDigits n
    cases digits : Nat.toDigits 10 n with
    | nil => exact absurd digits Nat.toDigits_ne_nil
    | cons c rest =>
      rw [digits] at front all
      obtain ⟨digit, all⟩ := List.forall_mem_cons.mp all
      have nonzero : octet c ≠ octet '0' := by
        intro same
        have h := congrArg UInt8.toNat same
        rw [toNat_octet digit, toNat_octet (by decide)] at h
        exact front (congrArg some (Char.toNat_inj.mp h))
      refine (takes_next (octet c)).bind ?_
      simp only [nonzero, isDigit_octet digit, if_false, if_true]
      exact (takes_digits all).bind_nil (takes_pure _)

theorem takes_afterSign (fits : n < UInt64.size) :
    Takes Closes (Number.afterSign false) ((Nat.toDigits 10 n).map octet)
      (.whole (UInt64.ofNat n)) := by
  have value : Significand.whole 0 ((Nat.toDigits 10 n).map octet) = ⟨n, 0⟩ := by
    rw [whole_map_octet (Numeral.isDigit_toDigits n) (by rwa [Nat.ofDigitChars_ten_toDigits]),
      Nat.ofDigitChars_ten_toDigits]
  refine (takes_wholePart n).bind_nil (takes_of_peek_behind fun c closing => ?_)
  rw [value]
  obtain rfl | rfl | rfl := closing <;> exact takes_pure _

theorem map_octet_toDigits (n : Nat) :
    ∃ b rest, (Nat.toDigits 10 n).map octet = b :: rest ∧ isDigit b = true := by
  have all := Numeral.isDigit_toDigits n
  cases digits : Nat.toDigits 10 n with
  | nil => exact absurd digits Nat.toDigits_ne_nil
  | cons c rest =>
    rw [digits] at all
    exact ⟨octet c, rest.map octet, rfl, isDigit_octet (all c List.mem_cons_self)⟩

theorem takes_number (fits : n < UInt64.size) :
    Takes Closes number ((Nat.toDigits 10 n).map octet) (.whole (UInt64.ofNat n)) := by
  have signless := takes_afterSign fits
  obtain ⟨b, rest, digits, digit⟩ := map_octet_toDigits n
  rw [digits] at signless ⊢
  refine takes_of_needToken (isBlank_of_isDigit digit) ?_
  rw [if_pos (.inr digit)]
  refine takes_of_peek ?_
  rw [if_neg fun minus => ne_of_isDigit digit (by decide) (Option.some.inj minus)]
  exact signless

theorem takes_wholeBelow {limit : Nat} {w : UInt64} (small : w.toNat < limit) :
    Takes Closes (wholeBelow limit) ((Nat.toDigits 10 w.toNat).map octet) w := by
  refine (takes_number w.toNat_lt).bind_nil ?_
  rw [UInt64.ofNat_toNat]
  simp only [small, if_true]
  exact takes_pure w

end AccessTrace.Json
