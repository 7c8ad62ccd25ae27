/-!
Octets as text. `utf8` writes a text, `ofUtf8?` reads one that is well formed, and `ofUtf8Lossy`
reads anything: each maximal ill-formed part becomes one replacement character.
-/

namespace AccessTrace.Text

def utf8 (text : String) : List UInt8 :=
  text.toByteArray.data.toList

def ofUtf8? (octets : List UInt8) : Option String :=
  String.fromUTF8? ⟨octets.toArray⟩

def replacement : Char := '\uFFFD'

/-- What the first octet of a character announces: its payload, the range of the second octet, and
the number of octets that still follow. -/
structure Lead where
  payload : Nat
  low : UInt8
  high : UInt8
  following : Nat

/-- The announcement of an octet above the ASCII range. Second octets that would spell a character
too long, a surrogate or a number past the last code point are outside of the given range. -/
def Lead.of? (octet : UInt8) : Option Lead :=
  if octet < 0xC2 then none
  else if octet < 0xE0 then some ⟨octet.toNat - 0xC0, 0x80, 0xBF, 1⟩
  else if octet = 0xE0 then some ⟨0, 0xA0, 0xBF, 2⟩
  else if octet = 0xED then some ⟨0xD, 0x80, 0x9F, 2⟩
  else if octet < 0xF0 then some ⟨octet.toNat - 0xE0, 0x80, 0xBF, 2⟩
  else if octet = 0xF0 then some ⟨0, 0x90, 0xBF, 3⟩
  else if octet < 0xF4 then some ⟨octet.toNat - 0xF0, 0x80, 0xBF, 3⟩
  else if octet = 0xF4 then some ⟨4, 0x80, 0x8F, 3⟩
  else none

/-- Adds the payload of `following` octets, the first of which lies in the given range. It stops
before the first octet that does not fit. -/
def Lead.finish (payload : Nat) (low high : UInt8) :
    Nat → List UInt8 → Option Nat × List UInt8
  | 0, octets => (some payload, octets)
  | _ + 1, [] => (none, [])
  | following + 1, octet :: rest =>
    if low ≤ octet ∧ octet ≤ high then
      Lead.finish (payload * 0x40 + (octet.toNat - 0x80)) 0x80 0xBF following rest
    else (none, octet :: rest)

theorem Lead.length_finish_le (payload : Nat) (low high : UInt8) (following : Nat)
    (octets : List UInt8) :
    (Lead.finish payload low high following octets).2.length ≤ octets.length := by
  induction octets generalizing payload low high following with
  | nil => cases following <;> simp [Lead.finish]
  | cons octet rest ih =>
    cases following with
    | zero => simp [Lead.finish]
    | succ following =>
      rw [Lead.finish]
      split
      · exact Nat.le_succ_of_le (ih _ _ _ _)
      · exact Nat.le_refl _

def firstChar (octet : UInt8) (rest : List UInt8) : Char × List UInt8 :=
  if octet < 0x80 then (Char.ofNat octet.toNat, rest)
  else match Lead.of? octet with
    | none => (replacement, rest)
    | some lead =>
      match Lead.finish lead.payload lead.low lead.high lead.following rest with
      | (some code, rest) => (Char.ofNat code, rest)
      | (none, rest) => (replacement, rest)

theorem length_firstChar_le (octet : UInt8) (rest : List UInt8) :
    (firstChar octet rest).2.length ≤ rest.length := by
  unfold firstChar
  split
  · exact Nat.le_refl _
  · split
    · exact Nat.le_refl _
    · next lead _ =>
      have h := Lead.length_finish_le lead.payload lead.low lead.high lead.following rest
      split <;> simp_all

def decodeLossy : List UInt8 → List Char
  | [] => []
  | octet :: rest => (firstChar octet rest).1 :: decodeLossy (firstChar octet rest).2
termination_by octets => octets.length
decreasing_by
  exact Nat.lt_succ_of_le (length_firstChar_le octet rest)

def ofUtf8Lossy (octets : List UInt8) : String :=
  String.ofList (decodeLossy octets)

end AccessTrace.Text
