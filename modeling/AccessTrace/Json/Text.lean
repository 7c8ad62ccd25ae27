import AccessTrace.Json.Scan
import AccessTrace.Text.Utf8

/-!
Texts of a document, between quotes. On the way out quotes, backslashes and controls are escaped
and everything else stands for itself; on the way in every escape is understood.
-/

namespace AccessTrace.Json

def hexDigit (n : Nat) : UInt8 :=
  if n < 10 then UInt8.ofNat (0x30 + n) else UInt8.ofNat (0x57 + n)

def escaped (b : UInt8) : List UInt8 :=
  if b = octet '"' then [octet '\\', octet '"']
  else if b = octet '\\' then [octet '\\', octet '\\']
  else if b = 0x08 then [octet '\\', octet 'b']
  else if b = 0x0C then [octet '\\', octet 'f']
  else if b = 0x0A then [octet '\\', octet 'n']
  else if b = 0x0D then [octet '\\', octet 'r']
  else if b = 0x09 then [octet '\\', octet 't']
  else if b < 0x20 then
    [octet '\\', octet 'u', octet '0', octet '0', hexDigit (b.toNat / 16), hexDigit (b.toNat % 16)]
  else [b]

def writeText (text : String) : List UInt8 :=
  octet '"' :: (AccessTrace.Text.utf8 text).flatMap escaped ++ [octet '"']

def hexValue? (b : UInt8) : Option Nat :=
  if isDigit b then some (b.toNat - 0x30)
  else if octet 'a' ≤ b ∧ b ≤ octet 'f' then some (b.toNat - 0x57)
  else if octet 'A' ≤ b ∧ b ≤ octet 'F' then some (b.toNat - 0x37)
  else none

/-- Takes four hexadecimal digits. All four are taken before any is looked at. -/
def hexQuad : List UInt8 → Except TokenFault (Nat × List UInt8)
  | a :: b :: c :: d :: rest =>
    match hexValue? a, hexValue? b, hexValue? c, hexValue? d with
    | some a, some b, some c, some d => .ok (((a * 16 + b) * 16 + c) * 16 + d, rest)
    | _, _, _, _ => .error .malformed
  | _ => .error .ended

def expect (b : UInt8) : List UInt8 → Except TokenFault (List UInt8)
  | [] => .error .ended
  | b' :: rest => if b' = b then .ok rest else .error .malformed

/-- Takes what follows `\u`: one unit of text, or the first of two surrogates and then the second
with its own escape. Gives the code point. -/
def unicodeEscape (octets : List UInt8) : Except TokenFault (Nat × List UInt8) := do
  let (first, rest) ← hexQuad octets
  if 0xDC00 ≤ first ∧ first ≤ 0xDFFF then .error .malformed
  else if 0xD800 ≤ first ∧ first ≤ 0xDBFF then
    let rest ← expect (octet '\\') rest
    let rest ← expect (octet 'u') rest
    let (second, rest) ← hexQuad rest
    if 0xDC00 ≤ second ∧ second ≤ 0xDFFF then
      .ok (0x10000 + (first - 0xD800) * 0x400 + (second - 0xDC00), rest)
    else .error .malformed
  else .ok (first, rest)

def letterEscape? (b : UInt8) : Option UInt8 :=
  if b = octet '"' ∨ b = octet '\\' ∨ b = octet '/' then some b
  else if b = octet 'b' then some 0x08
  else if b = octet 'f' then some 0x0C
  else if b = octet 'n' then some 0x0A
  else if b = octet 'r' then some 0x0D
  else if b = octet 't' then some 0x09
  else none

def unescape : List UInt8 → Except TokenFault (List UInt8 × List UInt8)
  | [] => .error .ended
  | b :: rest =>
    if b = octet 'u' then do
      let (code, rest) ← unicodeEscape rest
      return (String.utf8EncodeChar (Char.ofNat code), rest)
    else match letterEscape? b with
      | some out => .ok ([out], rest)
      | none => .error .malformed

theorem length_hexQuad {octets rest : List UInt8} {n : Nat} (h : hexQuad octets = .ok (n, rest)) :
    rest.length < octets.length := by
  unfold hexQuad at h
  split at h
  · split at h
    · cases h
      simp only [List.length_cons]
      omega
    · cases h
  · cases h

theorem length_expect {b : UInt8} {octets rest : List UInt8} (h : expect b octets = .ok rest) :
    rest.length < octets.length := by
  cases octets with
  | nil => cases h
  | cons c tail =>
    simp only [expect] at h
    split at h
    · cases h
      simp
    · cases h

theorem length_unicodeEscape {octets rest : List UInt8} {n : Nat}
    (h : unicodeEscape octets = .ok (n, rest)) : rest.length < octets.length := by
  simp only [unicodeEscape, bind, Except.bind] at h
  split at h
  · cases h
  · next first hfirst =>
    have hlt := length_hexQuad hfirst
    split at h
    · cases h
    · split at h
      · split at h
        · cases h
        · next rest₁ h₁ =>
          split at h
          · cases h
          · next rest₂ h₂ =>
            split at h
            · cases h
            · next second h₃ =>
              have := length_expect h₁
              have := length_expect h₂
              have := length_hexQuad h₃
              split at h
              · simp only [Except.ok.injEq, Prod.mk.injEq] at h
                rw [← h.2]
                omega
              · cases h
      · simp only [Except.ok.injEq, Prod.mk.injEq] at h
        rw [← h.2]
        exact hlt

theorem length_unescape {octets out rest : List UInt8} (h : unescape octets = .ok (out, rest)) :
    rest.length < octets.length := by
  cases octets with
  | nil => cases h
  | cons b tail =>
    simp only [unescape] at h
    split at h
    · cases hu : unicodeEscape tail with
      | error e => simp [hu, bind, Except.bind] at h
      | ok p =>
        obtain ⟨code, rest'⟩ := p
        simp only [hu, bind, Except.bind, pure, Except.pure, Except.ok.injEq, Prod.mk.injEq] at h
        rw [← h.2]
        exact Nat.lt_succ_of_lt (length_unicodeEscape hu)
    · split at h
      · cases h
        simp
      · cases h

def textOctets (octets : List UInt8) : Except TokenFault (List UInt8 × List UInt8) :=
  match octets with
  | [] => .error .ended
  | b :: rest =>
    if b = octet '"' then .ok ([], rest)
    else if b = octet '\\' then
      match _escape : unescape rest with
      | .error fault => .error fault
      | .ok (out, rest) =>
        match textOctets rest with
        | .error fault => .error fault
        | .ok (more, rest) => .ok (out ++ more, rest)
    else if b < 0x20 then .error .malformed
    else match textOctets rest with
      | .error fault => .error fault
      | .ok (more, rest) => .ok (b :: more, rest)
termination_by octets.length
decreasing_by
  · exact Nat.lt_succ_of_lt (length_unescape _escape)
  · exact Nat.lt_succ_self _

def readText (octets : List UInt8) : Except TokenFault (String × List UInt8) := do
  let (octets, rest) ← textOctets octets
  match AccessTrace.Text.ofUtf8? octets with
  | some text => .ok (text, rest)
  | none => .error .malformed

end AccessTrace.Json
