import AccessTrace.Proofs.Numeral.Grammar
import Mathlib.Data.Nat.Digits.Defs

namespace AccessTrace.Numeral

inductive IsMark : Nat → List Char → Prop where
  | sixteen {x : Char} (is : x = 'x' ∨ x = 'X') : IsMark 16 ['0', x]
  | eight {o : Char} (is : o = 'o' ∨ o = 'O') : IsMark 8 ['0', o]
  | two {b : Char} (is : b = 'b' ∨ b = 'B') : IsMark 2 ['0', b]
  | ten : IsMark 10 []

/-- One digit of the base or more, with the number as the value of their places. -/
def Spells (base : Nat) (text : List Char) (n : UInt64) : Prop :=
  text ≠ [] ∧ ∃ ds, List.Forall₂ (IsDigitOf base) text ds ∧ Nat.ofDigits base ds.reverse = n.toNat

/-- A mark and digits of its base, and nothing else. -/
def IsLiteral (text : List Char) (n : UInt64) : Prop :=
  ∃ base mark digits, IsMark base mark ∧ text = mark ++ digits ∧ Spells base digits n

/-- A literal but for a plus sign in front of its digits. -/
def IsSigned (text : List Char) (n : UInt64) : Prop :=
  ∃ base mark digits, IsMark base mark ∧ text = mark ++ '+' :: digits ∧ Spells base digits n

variable {base : Nat} {mark text digits : List Char} {n : UInt64}

theorem valueOf_eq_ofDigits (base : Nat) (ds : List Nat) (value : Nat) :
    valueOf base ds value = value * base ^ ds.length + Nat.ofDigits base ds.reverse := by
  induction ds generalizing value with
  | nil => simp [valueOf]
  | cons d ds ih =>
    have step : valueOf base (d :: ds) value = valueOf base ds (value * base + d) := rfl
    rw [step, ih, List.reverse_cons, Nat.ofDigits_append, List.length_reverse, List.length_cons,
      Nat.ofDigits_singleton]
    ring

theorem denotes_iff_spells : Denotes base text n ↔ Spells base text n := by
  simp [Denotes, Spells, valueOf_eq_ofDigits]

theorem Announces.exists_mark (announces : Announces text base digits) :
    ∃ mark, IsMark base mark ∧ text = mark ++ digits := by
  cases announces with
  | sixteen is => exact ⟨_, .sixteen is, rfl⟩
  | eight is => exact ⟨_, .eight is, rfl⟩
  | two is => exact ⟨_, .two is, rfl⟩
  | ten => exact ⟨[], .ten, rfl⟩

theorem IsMark.announces (isMark : IsMark base mark)
    (unmarked : base = 10 → ∀ c ∈ "xXoObB".toList, c ∉ digits) :
    Announces (mark ++ digits) base digits := by
  cases isMark with
  | sixteen is => exact .sixteen is digits
  | eight is => exact .eight is digits
  | two is => exact .two is digits
  | ten =>
    apply Announces.ten
    rintro c letter ⟨rest, rfl⟩
    exact unmarked rfl c letter (by simp)

theorem Spells.isDigit (spells : Spells 10 text n) : ∀ c ∈ text, c.isDigit :=
  Denotes.isDigit (denotes_iff_spells.mpr spells)

theorem Spells.unmarked (spells : Spells base digits n) :
    base = 10 → ∀ c ∈ "xXoObB".toList, c ∉ digits := by
  rintro rfl c letter member
  have none : ∀ c ∈ "xXoObB".toList, ¬ c.isDigit := by simp
  exact none c letter (spells.isDigit c member)

theorem writes_iff : Writes text n ↔ IsLiteral text n ∨ IsSigned text n := by
  constructor
  · rintro ⟨base, digits, announces, denotes⟩
    obtain ⟨mark, isMark, rfl⟩ := announces.exists_mark
    rcases denotes with denotes | ⟨behind, rfl, denotes⟩
    · exact .inl ⟨base, mark, digits, isMark, rfl, denotes_iff_spells.mp denotes⟩
    · exact .inr ⟨base, mark, behind, isMark, rfl, denotes_iff_spells.mp denotes⟩
  · rintro (⟨base, mark, digits, isMark, rfl, spells⟩ | ⟨base, mark, digits, isMark, rfl, spells⟩)
    · exact ⟨base, digits, isMark.announces spells.unmarked,
        .inl (denotes_iff_spells.mpr spells)⟩
    · have unmarked : base = 10 → ∀ c ∈ "xXoObB".toList, c ∉ '+' :: digits := by
        intro ten c letter member
        rcases List.mem_cons.mp member with rfl | member
        · simp at letter
        · exact spells.unmarked ten c letter member
      exact ⟨base, '+' :: digits, isMark.announces unmarked,
        .inr ⟨digits, rfl, denotes_iff_spells.mpr spells⟩⟩

theorem IsDigitOf.ne_plus {c : Char} {d : Nat} (small : base ≤ 16) (digit : IsDigitOf base c d) :
    c ≠ '+' := by
  rintro rfl
  have sign := (digit?_eq_some_iff small).mpr digit
  simp [digit?] at sign

theorem IsMark.base_le (isMark : IsMark base mark) : base ≤ 16 := by
  cases isMark <;> decide

theorem IsMark.plus_not_mem (isMark : IsMark base mark) : '+' ∉ mark := by
  cases isMark with
  | sixteen is => rcases is with rfl | rfl <;> decide
  | eight is => rcases is with rfl | rfl <;> decide
  | two is => rcases is with rfl | rfl <;> decide
  | ten => exact List.not_mem_nil

theorem Spells.plus_not_mem (small : base ≤ 16) (spells : Spells base text n) : '+' ∉ text := by
  obtain ⟨-, ds, digits, -⟩ := spells
  intro member
  have all := ((List.forall₂_and_left text ds).mp
    (digits.imp fun _ _ digit => ⟨digit.ne_plus small, digit⟩)).1
  exact all '+' member rfl

theorem IsLiteral.plus_not_mem (literal : IsLiteral text n) : '+' ∉ text := by
  obtain ⟨base, mark, digits, isMark, rfl, spells⟩ := literal
  rw [List.mem_append, not_or]
  exact ⟨isMark.plus_not_mem, spells.plus_not_mem isMark.base_le⟩

theorem IsSigned.plus_mem (signed : IsSigned text n) : '+' ∈ text := by
  obtain ⟨base, mark, digits, -, rfl, -⟩ := signed
  simp

theorem exists_error_iff :
    (∃ error, parse text = .error error) ↔ ∀ n, ¬ IsLiteral text n ∧ ¬ IsSigned text n := by
  simp only [← not_or, ← writes_iff, ← parse_eq_ok_iff]
  cases parse text with
  | error error => simp
  | ok n => simp

/-- A text is read just as literals are written, with all others refused, if and only if it has no
plus sign in front of digits. One that has is read as if the sign were not there. -/
theorem reads_literals_iff (text : List Char) :
    (((∀ n, parse text = .ok n ↔ IsLiteral text n) ∧
        ((∃ error, parse text = .error error) ↔ ∀ n, ¬ IsLiteral text n)) ↔
      ∀ n, ¬ IsSigned text n) ∧
    ∀ n, IsSigned text n → parse text = .ok n := by
  have read (n : UInt64) : parse text = .ok n ↔ IsLiteral text n ∨ IsSigned text n :=
    parse_eq_ok_iff.trans writes_iff
  constructor
  · constructor
    · rintro ⟨literals, -⟩ n signed
      have literal := (literals n).mp ((read n).mpr (.inr signed))
      exact literal.plus_not_mem signed.plus_mem
    · intro unsigned
      constructor
      · intro n
        rw [read, or_iff_left (unsigned n)]
      · rw [exists_error_iff]
        exact forall_congr' fun n => and_iff_left (unsigned n)
  · intro n signed
    exact (read n).mpr (.inr signed)

/-- Five with a sign is no literal, and it is read. -/
theorem signed_literal_read :
    parse ['+', '5'] = .ok 5 ∧ ∀ n, ¬ IsLiteral ['+', '5'] n := by
  have five : Spells 10 ['5'] 5 :=
    ⟨List.cons_ne_nil _ _, [5], .cons ⟨by decide, .inl rfl⟩ .nil, rfl⟩
  have signed : IsSigned ['+', '5'] 5 := ⟨10, [], ['5'], .ten, rfl, five⟩
  exact ⟨parse_eq_ok_iff.mpr (writes_iff.mpr (.inr signed)),
    fun n literal => literal.plus_not_mem signed.plus_mem⟩

end AccessTrace.Numeral
