import AccessTrace.Numeral
import Mathlib.Data.List.Forall2
namespace AccessTrace.Numeral

variable {n value : Nat} {text : List Char}

/-- The character is the digit with the value, in either case of letters. -/
def IsDigitOf (base : Nat) (c : Char) (d : Nat) : Prop :=
  d < base ∧ (c = Nat.digitChar d ∨ c = (Nat.digitChar d).toUpper)

theorem digit?_ascii : ∀ n < 128, ∀ d < 16, digit? 16 (Char.ofNat n) = some d ↔
    Char.ofNat n = Nat.digitChar d ∨ Char.ofNat n = (Nat.digitChar d).toUpper := by
  decide +kernel

theorem digitChar_ascii : ∀ d < 16,
    (Nat.digitChar d).toNat < 128 ∧ (Nat.digitChar d).toUpper.toNat < 128 := by
  decide

theorem digit?_eq_some_iff {base d : Nat} {c : Char} (small : base ≤ 16) :
    digit? base c = some d ↔ IsDigitOf base c d := by
  have below : digit? base c = some d ↔ d < base ∧ digit? 16 c = some d := by
    simp only [digit?, Option.filter_eq_some_iff, decide_eq_true_eq]
    exact ⟨fun ⟨value, low⟩ => ⟨low, value, by omega⟩, fun ⟨low, value, _⟩ => ⟨value, low⟩⟩
  rw [below]
  refine and_congr_right fun low => ?_
  have low : d < 16 := Nat.lt_of_lt_of_le low small
  by_cases ascii : c.toNat < 128
  · rw [← Char.ofNat_toNat c]
    exact digit?_ascii c.toNat ascii d low
  · -- No digit is outside of the ASCII range.
    have high : ¬ c ≤ '9' ∧ ¬ c ≤ 'z' ∧ ¬ c ≤ 'Z' := by
      simp only [Char.le_def, UInt32.le_iff_toNat_le]
      change ¬ c.toNat ≤ 57 ∧ ¬ c.toNat ≤ 122 ∧ ¬ c.toNat ≤ 90
      omega
    have none : digit? 16 c = none := by simp [digit?, high]
    rw [none]
    refine ⟨nofun, ?_⟩
    rintro (rfl | rfl)
    · exact absurd (digitChar_ascii d low).1 ascii
    · exact absurd (digitChar_ascii d low).2 ascii

/-- The number that digits of the base denote, behind digits that denote `value`. -/
def valueOf (base : Nat) (digits : List Nat) (value : Nat) : Nat :=
  digits.foldl (fun value d => value * base + d) value

theorem le_valueOf {base : Nat} (positive : 0 < base) (ds : List Nat) (value : Nat) :
    value ≤ valueOf base ds value := by
  induction ds generalizing value with
  | nil => exact Nat.le_refl _
  | cons d ds ih =>
    have grows : value ≤ value * base + d :=
      Nat.le_add_right_of_le (Nat.le_mul_of_pos_right value positive)
    exact Nat.le_trans grows (ih _)

theorem digits_eq_ok_iff {base : Nat} (positive : 0 < base) (small : base ≤ 16)
    (fits : value < UInt64.size) {n : UInt64} : digits base value text = .ok n ↔
      ∃ ds, List.Forall₂ (IsDigitOf base) text ds ∧ valueOf base ds value = n.toNat := by
  induction text generalizing value with
  | nil =>
    simp only [digits, Except.ok.injEq, List.forall₂_nil_left_iff, exists_eq_left]
    rw [← UInt64.toNat_inj, UInt64.toNat_ofNat_of_lt' fits]
    rfl
  | cons c rest ih =>
    simp only [List.forall₂_cons_left_iff]
    rw [digits]
    cases read : digit? base c with
    | none =>
      refine ⟨nofun, ?_⟩
      rintro ⟨_, ⟨d, ds, digit, -, rfl⟩, -⟩
      rw [(digit?_eq_some_iff small).mpr digit] at read
      cases read
    | some d =>
      have only {d' : Nat} (digit : IsDigitOf base c d') : d' = d := by
        rw [(digit?_eq_some_iff small).mpr digit] at read
        exact Option.some.inj read
      have digit := (digit?_eq_some_iff small).mp read
      simp only
      split
      · next more =>
        rw [ih more]
        constructor
        · rintro ⟨ds, later, value⟩
          exact ⟨d :: ds, ⟨d, ds, digit, later, rfl⟩, value⟩
        · rintro ⟨_, ⟨d', ds, digit', later, rfl⟩, value⟩
          cases only digit'
          exact ⟨ds, later, value⟩
      · next large =>
        refine ⟨nofun, ?_⟩
        rintro ⟨_, ⟨d', ds, digit', later, rfl⟩, same⟩
        cases only digit'
        have grown := le_valueOf positive ds (value * base + d)
        change valueOf base ds (value * base + d) = n.toNat at same
        exact absurd (Nat.lt_of_le_of_lt (same ▸ grown) n.toNat_lt) large

def Denotes (base : Nat) (text : List Char) (n : UInt64) : Prop :=
  text ≠ [] ∧ ∃ ds, List.Forall₂ (IsDigitOf base) text ds ∧ valueOf base ds 0 = n.toNat

theorem not_denotes_plus {base : Nat} (small : base ≤ 16) {n : UInt64} :
    ¬ Denotes base ('+' :: text) n := by
  rintro ⟨-, _, digits, -⟩
  obtain ⟨d, _, digit, -, -⟩ := List.forall₂_cons_left_iff.mp digits
  have sign := digit?_eq_some_iff small |>.mpr digit
  simp [digit?] at sign

theorem inBase_eq_ok_iff {base : Nat} (positive : 0 < base) (small : base ≤ 16) {n : UInt64} :
    inBase base text = .ok n ↔
      Denotes base text n ∨ ∃ rest, text = '+' :: rest ∧ Denotes base rest n := by
  have plain {text : List Char} (some : text ≠ []) : digits base 0 text = .ok n ↔
      Denotes base text n := by
    rw [digits_eq_ok_iff positive small (by decide)]
    exact (and_iff_right some).symm
  unfold inBase
  split
  · exact ⟨nofun, by rintro (⟨some, -⟩ | ⟨_, none, -⟩) <;> contradiction⟩
  · refine ⟨nofun, ?_⟩
    rintro (denotes | ⟨_, same, some, -⟩)
    · exact absurd denotes (not_denotes_plus small)
    · cases same
      exact absurd rfl some
  · next rest more =>
    rw [plain (by simpa using more)]
    constructor
    · exact fun denotes => .inr ⟨rest, rfl, denotes⟩
    · rintro (denotes | ⟨_, same, denotes⟩)
      · exact absurd denotes (not_denotes_plus small)
      · cases same
        exact denotes
  · next some _ unsigned =>
    rw [plain some]
    refine ⟨.inl, ?_⟩
    rintro (denotes | ⟨rest, same, -⟩)
    · exact denotes
    · exact absurd same (unsigned rest)

/-- The base that a text announces, and the text behind the announcement. -/
inductive Announces : List Char → Nat → List Char → Prop where
  | sixteen {mark : Char} (is : mark = 'x' ∨ mark = 'X') (rest : List Char) :
      Announces ('0' :: mark :: rest) 16 rest
  | eight {mark : Char} (is : mark = 'o' ∨ mark = 'O') (rest : List Char) :
      Announces ('0' :: mark :: rest) 8 rest
  | two {mark : Char} (is : mark = 'b' ∨ mark = 'B') (rest : List Char) :
      Announces ('0' :: mark :: rest) 2 rest
  | ten {text : List Char} (none : ∀ mark ∈ "xXoObB".toList, ¬ ['0', mark] <+: text) :
      Announces text 10 text

theorem announces_base (text : List Char) : Announces text (base text).1 (base text).2 := by
  unfold base
  split
  · exact .sixteen (.inl rfl) _
  · exact .sixteen (.inr rfl) _
  · exact .eight (.inl rfl) _
  · exact .eight (.inr rfl) _
  · exact .two (.inl rfl) _
  · exact .two (.inr rfl) _
  · refine .ten fun mark member front => ?_
    obtain ⟨rest, rfl⟩ := front
    simp at member
    rcases member with rfl | rfl | rfl | rfl | rfl | rfl <;> simp_all

theorem Announces.base_eq {rest : List Char} {b : Nat} (announces : Announces text b rest) :
    base text = (b, rest) := by
  cases announces with
  | sixteen is => rcases is with rfl | rfl <;> rfl
  | eight is => rcases is with rfl | rfl <;> rfl
  | two is => rcases is with rfl | rfl <;> rfl
  | ten none =>
    unfold base
    split
    case h_7 => rfl
    all_goals exact absurd (List.prefix_append ['0', _] _) (none _ (by decide))

/-- The text writes the number, in the base that it announces. A plus sign may stand before the
digits. -/
def Writes (text : List Char) (n : UInt64) : Prop :=
  ∃ base rest, Announces text base rest ∧
    (Denotes base rest n ∨ ∃ digits, rest = '+' :: digits ∧ Denotes base digits n)

theorem parse_eq_ok_iff {n : UInt64} : parse text = .ok n ↔ Writes text n := by
  have read {b : Nat} {rest : List Char} (announces : Announces text b rest) :
      parse text = .ok n ↔ Denotes b rest n ∨ ∃ digits, rest = '+' :: digits ∧ Denotes b digits n := by
    have bounds : 0 < b ∧ b ≤ 16 := by cases announces <;> decide
    rw [parse, announces.base_eq]
    exact inBase_eq_ok_iff bounds.1 bounds.2
  constructor
  · intro parsed
    exact ⟨_, _, announces_base text, (read (announces_base text)).mp parsed⟩
  · rintro ⟨b, rest, announces, denotes⟩
    exact (read announces).mpr denotes

theorem IsDigitOf.isDigit {c : Char} {d : Nat} (digit : IsDigitOf 10 c d) : c.isDigit := by
  have decimal : ∀ d < 10, (Nat.digitChar d).isDigit ∧ (Nat.digitChar d).toUpper.isDigit := by
    decide
  obtain ⟨low, rfl | rfl⟩ := digit
  · exact (decimal d low).1
  · exact (decimal d low).2

theorem Denotes.isDigit {n : UInt64} (denotes : Denotes 10 text n) : ∀ c ∈ text, c.isDigit := by
  obtain ⟨-, ds, digits, -⟩ := denotes
  exact ((List.forall₂_and_left text ds).mp (digits.imp fun _ _ digit => ⟨digit.isDigit, digit⟩)).1

theorem decimal_eq_ok_iff {n : UInt64} (digits : ∀ c ∈ text, c.isDigit) :
    decimal text = .ok n ↔ Denotes 10 text n := by
  rw [decimal, inBase_eq_ok_iff (by decide) (by decide), or_iff_left]
  rintro ⟨rest, rfl, -⟩
  exact absurd (digits '+' List.mem_cons_self) (by decide)

end AccessTrace.Numeral
