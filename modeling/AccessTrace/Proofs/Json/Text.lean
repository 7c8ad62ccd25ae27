import AccessTrace.Proofs.Json.Scan
import AccessTrace.Proofs.Text.Utf8

namespace AccessTrace.Json

variable {b : UInt8} {octets rest : List UInt8}

def IsSpecial (b : UInt8) : Prop :=
  b = octet '"' ∨ b = octet '\\' ∨ b < 0x20

theorem hexValue?_hexDigit : ∀ n < 16, hexValue? (hexDigit n) = some n := by
  decide

theorem utf8EncodeChar_control :
    ∀ n < 32, String.utf8EncodeChar (Char.ofNat n) = [UInt8.ofNat n] := by
  decide

theorem unescape_control (control : b < 0x20) (rest : List UInt8) :
    unescape (octet 'u' :: octet '0' :: octet '0' :: hexDigit (b.toNat / 16) ::
      hexDigit (b.toNat % 16) :: rest) = .ok ([b], rest) := by
  have small : b.toNat < 32 := control
  have quad : hexQuad (octet '0' :: octet '0' :: hexDigit (b.toNat / 16) ::
      hexDigit (b.toNat % 16) :: rest) = .ok (b.toNat, rest) := by
    have zero : hexValue? (octet '0') = some 0 := by decide
    have high := hexValue?_hexDigit (b.toNat / 16) (by omega)
    have low := hexValue?_hexDigit (b.toNat % 16) (by omega)
    have value : ((0 * 16 + 0) * 16 + b.toNat / 16) * 16 + b.toNat % 16 = b.toNat := by omega
    simp only [hexQuad, zero, high, low, value]
  have code : unicodeEscape (octet '0' :: octet '0' :: hexDigit (b.toNat / 16) ::
      hexDigit (b.toNat % 16) :: rest) = .ok (b.toNat, rest) := by
    have lone : ¬ (0xDC00 ≤ b.toNat ∧ b.toNat ≤ 0xDFFF) := by omega
    have unpaired : ¬ (0xD800 ≤ b.toNat ∧ b.toNat ≤ 0xDBFF) := by omega
    simp [unicodeEscape, quad, bind, Except.bind, lone, unpaired]
  simp [unescape, code, bind, Except.bind, pure, Except.pure, utf8EncodeChar_control _ small]

theorem unescape_escaped (special : IsSpecial b) :
    ∃ escape, escaped b = octet '\\' :: escape ∧
      ∀ rest, unescape (escape ++ rest) = .ok ([b], rest) := by
  unfold escaped
  -- Seven octets have an escape of one letter.
  iterate 7
    split
    · next same =>
      subst same
      exact ⟨_, rfl, fun _ => rfl⟩
  split
  · next control => exact ⟨_, rfl, unescape_control control⟩
  · next quote slash _ _ _ _ _ control =>
    obtain h | h | h := special
    · exact absurd h quote
    · exact absurd h slash
    · exact absurd h control

theorem escaped_of_not_special (plain : ¬ IsSpecial b) : escaped b = [b] := by
  simp only [IsSpecial, not_or] at plain
  obtain ⟨quote, slash, solid⟩ := plain
  have apart (c : UInt8) (control : c < 0x20) : b ≠ c := by
    rintro rfl
    exact solid control
  rw [escaped, if_neg quote, if_neg slash, if_neg (apart _ (by decide)),
    if_neg (apart _ (by decide)), if_neg (apart _ (by decide)), if_neg (apart _ (by decide)),
    if_neg (apart _ (by decide)), if_neg solid]

theorem textOctets_quote (rest : List UInt8) : textOctets (octet '"' :: rest) = .ok ([], rest) := by
  rw [textOctets]
  rfl

theorem textOctets_escape {octets out after rest more : List UInt8}
    (escape : unescape octets = .ok (out, after)) (taken : textOctets after = .ok (more, rest)) :
    textOctets (octet '\\' :: octets) = .ok (out ++ more, rest) := by
  rw [textOctets, if_neg (by decide), if_pos rfl]
  split
  · next failed => cases failed.symm.trans escape
  · next found =>
    cases found.symm.trans escape
    rw [taken]

theorem textOctets_plain {more after : List UInt8} (plain : ¬ IsSpecial b)
    (taken : textOctets rest = .ok (more, after)) :
    textOctets (b :: rest) = .ok (b :: more, after) := by
  simp only [IsSpecial, not_or] at plain
  rw [textOctets, if_neg plain.1, if_neg plain.2.1, if_neg plain.2.2, taken]

/-- Escaped octets are read up to the closing quote, whatever octets they are. -/
theorem textOctets_escaped (octets rest : List UInt8) :
    textOctets (octets.flatMap escaped ++ octet '"' :: rest) = .ok (octets, rest) := by
  induction octets with
  | nil => exact textOctets_quote rest
  | cons b octets ih =>
    rw [List.flatMap_cons, List.append_assoc]
    by_cases special : IsSpecial b
    · obtain ⟨escape, written, undone⟩ := unescape_escaped special
      rw [written, List.cons_append]
      exact textOctets_escape (undone _) ih
    · rw [escaped_of_not_special special]
      exact textOctets_plain special ih

namespace Scan

variable {B : List UInt8 → Prop}

theorem takes_text (name : String) : Takes B text (writeText name) name := by
  have read (rest : List UInt8) : readText ((AccessTrace.Text.utf8 name).flatMap escaped ++
      [octet '"'] ++ rest) = .ok (name, rest) := by
    rw [List.append_assoc, readText, List.singleton_append, textOctets_escaped]
    simp [bind, Except.bind, AccessTrace.Text.ofUtf8?_utf8]
  refine takes_of_needToken (by decide) ?_
  rw [if_pos rfl]
  exact (takes_skip _).bind (takes_take fun rest _ => read rest)

end Scan

end AccessTrace.Json
