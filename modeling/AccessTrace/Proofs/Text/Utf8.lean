import AccessTrace.Text.Utf8

namespace AccessTrace.Text

open String (utf8EncodeChar)

theorem ofUtf8?_utf8 (text : String) : ofUtf8? (utf8 text) = some text := by
  have octets : (⟨(utf8 text).toArray⟩ : ByteArray) = text.toByteArray := by
    simp [utf8]
  rw [ofUtf8?, octets, String.fromUTF8?, dif_pos text.isValidUTF8]
  rfl

theorem utf8_inj {text other : String} (same : utf8 text = utf8 other) : text = other := by
  have read := ofUtf8?_utf8 text
  rw [same, ofUtf8?_utf8] at read
  exact (Option.some.inj read).symm

theorem utf8_of_ofUtf8? {octets : List UInt8} {text : String} (known : ofUtf8? octets = some text) :
    utf8 text = octets := by
  rw [ofUtf8?, String.fromUTF8?] at known
  split at known
  · cases known
    exact List.toList_toArray
  · cases known

theorem utf8_eq_flatMap (text : String) : utf8 text = text.toList.flatMap utf8EncodeChar := by
  have octets : text.toByteArray = (text.toList.flatMap utf8EncodeChar).toByteArray := by
    rw [← List.utf8Encode, ← String.toByteArray_ofList, String.ofList_toList]
  rw [utf8, octets]
  exact List.toList_data_toByteArray

theorem toNat_ofNat {n : Nat} (valid : n.isValidChar) : (Char.ofNat n).toNat = n := by
  rw [Char.ofNat, dif_pos valid]
  rfl

theorem map_toNat_encode (c : Char) : (utf8EncodeChar c).map UInt8.toNat =
    if c.toNat < 0x80 then [c.toNat]
    else if c.toNat < 0x800 then [0xC0 + c.toNat / 0x40, 0x80 + c.toNat % 0x40]
    else if c.toNat < 0x10000 then
      [0xE0 + c.toNat / 0x1000, 0x80 + c.toNat / 0x40 % 0x40, 0x80 + c.toNat % 0x40]
    else
      [0xF0 + c.toNat / 0x40000, 0x80 + c.toNat / 0x1000 % 0x40, 0x80 + c.toNat / 0x40 % 0x40,
        0x80 + c.toNat % 0x40] := by
  have below : c.toNat < 0x110000 := by
    rcases c.valid with low | ⟨-, high⟩
    · exact Nat.lt_trans low (by decide)
    · exact high
  have value (n : Nat) (small : n < 0x100) : (UInt8.ofNat n).toNat = n :=
    UInt8.toNat_ofNat_of_lt' small
  unfold utf8EncodeChar
  rw [show c.val.toNat = c.toNat from rfl]
  generalize c.toNat = n at below
  by_cases one : n < 0x80
  · rw [if_pos (Nat.le_of_lt_succ one), if_pos one, List.map_singleton, value n (by omega)]
  by_cases two : n < 0x800
  · rw [if_neg (by omega), if_pos (by omega), if_neg one, if_pos two]
    simp only [List.map_cons, List.map_nil, List.cons.injEq, and_true]
    rw [value _ (by omega), value _ (by omega)]
    omega
  by_cases three : n < 0x10000
  · rw [if_neg (by omega), if_neg (by omega), if_pos (by omega), if_neg one, if_neg two,
      if_pos three]
    simp only [List.map_cons, List.map_nil, List.cons.injEq, and_true]
    rw [value _ (by omega), value _ (by omega), value _ (by omega)]
    omega
  · rw [if_neg (by omega), if_neg (by omega), if_neg (by omega), if_neg one, if_neg two,
      if_neg three]
    simp only [List.map_cons, List.map_nil, List.cons.injEq, and_true]
    rw [value _ (by omega), value _ (by omega), value _ (by omega), value _ (by omega)]
    omega

theorem encode_of_ascii {octet : UInt8} (ascii : octet < 0x80) :
    utf8EncodeChar (Char.ofNat octet.toNat) = [octet] := by
  have small : octet.toNat < 0x80 := ascii
  have valid : octet.toNat.isValidChar := .inl (by omega)
  refine List.map_inj_right (fun _ _ => UInt8.toNat_inj.mp) |>.mp ?_
  rw [map_toNat_encode, toNat_ofNat valid, if_pos small]
  rfl

theorem encode_of_mem {c : Char} {octet : UInt8} (member : octet ∈ utf8EncodeChar c)
    (ascii : octet < 0x80) : c = Char.ofNat octet.toNat := by
  have inside : octet.toNat ∈ (utf8EncodeChar c).map UInt8.toNat := List.mem_map_of_mem member
  have small : octet.toNat < 0x80 := ascii
  rw [map_toNat_encode] at inside
  by_cases one : c.toNat < 0x80
  · rw [if_pos one, List.mem_singleton] at inside
    rw [inside, Char.ofNat_toNat]
  · -- All octets of another character are above that range.
    rw [if_neg one] at inside
    split at inside
    · simp only [List.mem_cons, List.not_mem_nil, or_false] at inside
      omega
    split at inside <;>
      simp only [List.mem_cons, List.not_mem_nil, or_false] at inside <;> omega

theorem mem_utf8_iff {text : String} {octet : UInt8} (ascii : octet < 0x80) :
    octet ∈ utf8 text ↔ Char.ofNat octet.toNat ∈ text.toList := by
  rw [utf8_eq_flatMap, List.mem_flatMap]
  constructor
  · rintro ⟨c, member, inside⟩
    exact encode_of_mem inside ascii ▸ member
  · intro member
    exact ⟨_, member, by rw [encode_of_ascii ascii]; exact List.mem_singleton_self octet⟩

end AccessTrace.Text
