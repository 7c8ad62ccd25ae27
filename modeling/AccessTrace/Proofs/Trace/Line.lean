import AccessTrace.Proofs.Numeral
import AccessTrace.Proofs.Text.Blank
import AccessTrace.Trace.Line

namespace AccessTrace

open Text

def endLine (id : AccessId) : String :=
  "end_access name=" ++ id.name

theorem AccessId.toList_name (id : AccessId) :
    id.name.toList = 'A' :: '-' :: Nat.toDigits 10 id.number.toNat := by
  have h : id.name = "A-" ++ id.number.toNat.repr := rfl
  rw [h, String.toList_append, Nat.toList_repr]
  rfl

theorem isBlank_of_isDigit {c : Char} (digit : c.isDigit) : isBlank c = false := by
  obtain ⟨low, high⟩ := Numeral.isDigit_iff.mp digit
  rw [Bool.eq_false_iff]
  intro blank
  obtain ⟨range, member, inside⟩ := CodeRanges.holds_iff.mp blank
  simp only [blankRanges, List.mem_cons, List.not_mem_nil, or_false] at member
  rcases member with rfl | rfl | rfl | rfl | rfl | rfl | rfl | rfl | rfl | rfl <;>
    simp only at inside <;> omega

namespace TraceLine

theorem after?_append (name text : List Char) : after? name (name ++ text) = some text := by
  simp [after?]

theorem unquoted_of_not_mem {text : List Char} (plain : '"' ∉ text) : unquoted text = text := by
  have kept {all : List Char} (plain : '"' ∉ all) : all.dropWhile (· = '"') = all := by
    cases all with
    | nil => rfl
    | cons c rest =>
      rw [List.dropWhile_cons_of_neg]
      simp only [List.mem_cons, not_or] at plain
      simpa using Ne.symm plain.1
  have plain_back : '"' ∉ text.reverse := by rwa [List.mem_reverse]
  rw [unquoted, kept plain, kept plain_back, List.reverse_reverse]

theorem readId_name (id : AccessId) :
    readId ('A' :: '-' :: Nat.toDigits 10 id.number.toNat) = .ok id := by
  have digits : (Nat.toDigits 10 id.number.toNat).all Char.isDigit :=
    List.all_eq_true.mpr (Numeral.isDigit_toDigits _)
  have cut := after?_append ['A', '-'] (Nat.toDigits 10 id.number.toNat)
  simp only [List.cons_append, List.nil_append] at cut
  simp [readId, cut, digits, Numeral.decimal_toDigits id.number.toNat_lt]

theorem mem_toList_name {id : AccessId} {c : Char} (member : c ∈ id.name.toList) :
    c = 'A' ∨ c = '-' ∨ c.isDigit := by
  simp only [id.toList_name, List.mem_cons] at member
  exact member.imp_right (Or.imp_right (Numeral.isDigit_toDigits _ c))

theorem words_endLine (id : AccessId) :
    words (endLine id).toList = ["end_access".toList, "name=".toList ++ id.name.toList] := by
  have split : (endLine id).toList =
      "end_access".toList ++ ' ' :: ("name=".toList ++ id.name.toList) := by
    have front : "end_access name=".toList = "end_access".toList ++ ' ' :: "name=".toList := by
      decide
    have appended : (endLine id).toList = "end_access name=".toList ++ id.name.toList :=
      String.toList_append
    rw [appended, front]
    exact List.append_assoc "end_access".toList (' ' :: "name=".toList) id.name.toList
  have unbroken : ∀ c ∈ "name=".toList ++ id.name.toList, isBlank c = false := by
    have key : ∀ c ∈ "name=".toList, isBlank c = false := unbroken_of_all (by decide)
    intro c member
    rcases List.mem_append.mp member with member | name
    · exact key c member
    · rcases mem_toList_name name with rfl | rfl | digit
      · decide
      · decide
      · exact isBlank_of_isDigit digit
  rw [split, words_append (by decide) (unbroken_of_all (by decide)) (by decide),
    words_of_unbroken (by simp) unbroken]

theorem parse_endLine (id : AccessId) : parse (endLine id) = .ok (.endAccess id) := by
  have not_mem {c : Char} (other : c ≠ 'A' ∧ c ≠ '-' ∧ ¬ c.isDigit) : c ∉ id.name.toList := by
    intro member
    rcases mem_toList_name member with rfl | rfl | digit
    · exact other.1 rfl
    · exact other.2.1 rfl
    · exact other.2.2 digit
  have starts_none : marked newAccessMarker
      ["end_access".toList, "name=".toList ++ id.name.toList] = false := by
    have first : newAccessMarker.isSuffixOf "end_access".toList = false := by decide
    have second : newAccessMarker.isSuffixOf ("name=".toList ++ id.name.toList) = false := by
      rw [Bool.eq_false_iff]
      intro suffix
      have underscore : '_' ∈ "name=".toList ++ id.name.toList :=
        (List.isSuffixOf_iff_suffix.mp suffix).subset (by decide)
      rcases List.mem_append.mp underscore with key | name
      · exact absurd key (by decide)
      · exact not_mem (by decide) name
    simp only [marked, List.any_cons, List.any_nil, first, second, Bool.or_false]
  have name : field "name" ["end_access".toList, "name=".toList ++ id.name.toList] =
      .ok id.name.toList := by
    have value : value? "name".toList ("name=".toList ++ id.name.toList) = some id.name.toList :=
      after?_append "name=".toList id.name.toList
    have none : value? "name".toList "end_access".toList = none := by decide
    simp only [field, List.findSome?_cons, none, value, unquoted_of_not_mem (not_mem (by decide))]
  have clock : clockText? ["end_access".toList, "name=".toList ++ id.name.toList] = none := rfl
  have ends : marked endAccessMarker ["end_access".toList, "name=".toList ++ id.name.toList] =
      true := rfl
  rw [parse, words_endLine, ofWords, clock]
  simp only [starts_none, ends, name, Bool.false_eq_true, if_false, if_true]
  have read := readId_name id
  rw [← id.toList_name] at read
  change (do return endAccess (← readId id.name.toList)) = _
  rw [read]
  rfl

end TraceLine

end AccessTrace
