import AccessTrace.Proofs.Text.Lossy
import AccessTrace.Trace.Reader
import Mathlib.Data.List.Forall2

namespace AccessTrace.LineReader

open Text

/-- What stands between line feeds. Behind the last of them stands a line only if it holds
something. -/
def linePieces (octets : List UInt8) : List (List UInt8) :=
  let pieces := octets.splitOn lineFeed
  if pieces.getLast? = some [] then pieces.dropLast else pieces

/-- The lines that octets hold. -/
def AreLines (octets : List UInt8) (lines : List String) : Prop :=
  List.Forall₂ (fun piece line => Decodes (dropReturn piece) line.toList) (linePieces octets) lines

def EndsLine (octets : List UInt8) : Prop :=
  ∀ last ∈ octets.getLast?, last = lineFeed

variable {octets piece rest whole : List UInt8}

theorem lines_induction {P : List UInt8 → Prop} (last : ∀ piece, lineFeed ∉ piece → P piece)
    (line : ∀ piece rest, lineFeed ∉ piece → P rest → P (piece ++ lineFeed :: rest))
    (octets : List UInt8) : P octets := by
  induction size : octets.length using Nat.strongRecOn generalizing octets with
  | ind _ ih =>
    by_cases fed : lineFeed ∈ octets
    · obtain ⟨piece, rest, rfl, unbroken⟩ := List.eq_append_cons_of_mem fed
      refine line piece rest unbroken (ih rest.length ?_ rest rfl)
      rw [← size, List.length_append, List.length_cons]
      omega
    · exact last octets fed

section Pieces

theorem linePieces_last (unbroken : lineFeed ∉ piece) (held : piece ≠ []) :
    linePieces piece = [piece] := by
  simp [linePieces, List.splitOn_eq_singleton unbroken, held]

theorem linePieces_line (unbroken : lineFeed ∉ piece) (rest : List UInt8) :
    linePieces (piece ++ lineFeed :: rest) = piece :: linePieces rest := by
  have more := List.splitOn_ne_nil lineFeed rest
  simp only [linePieces, List.splitOn_append_cons_self_of_not_mem unbroken]
  rw [List.getLast?_cons_of_ne_nil more, List.dropLast_cons_of_ne_nil more]
  split <;> rfl

theorem EndsLine.of_line (ends : EndsLine (piece ++ lineFeed :: rest)) : EndsLine rest := by
  intro last final
  refine ends last ?_
  cases rest with
  | nil => cases final
  | cons octet rest =>
    rw [List.getLast?_append_cons, List.getLast?_cons_cons]
    exact final

theorem EndsLine.eq_nil (ends : EndsLine piece) (unbroken : lineFeed ∉ piece) : piece = [] := by
  by_contra held
  have final := List.getLast?_eq_some_getLast held
  exact unbroken (ends _ final ▸ List.getLast_mem held)

theorem linePieces_append (ends : EndsLine whole) (rest : List UInt8) :
    linePieces (whole ++ rest) = linePieces whole ++ linePieces rest := by
  induction whole using lines_induction with
  | last piece unbroken =>
    rw [ends.eq_nil unbroken]
    rfl
  | line piece more unbroken ih =>
    rw [List.append_assoc, List.cons_append, linePieces_line unbroken, linePieces_line unbroken,
      ih ends.of_line, List.cons_append]

end Pieces

section Steps

theorem cut_line (unbroken : lineFeed ∉ piece) (rest : List UInt8) :
    cut (piece ++ lineFeed :: rest) = (piece, some rest) := by
  induction piece with
  | nil => rfl
  | cons octet piece ih =>
    simp only [List.mem_cons, not_or] at unbroken
    rw [List.cons_append, cut, if_neg (Ne.symm unbroken.1), ih unbroken.2]

theorem cut_last (unbroken : lineFeed ∉ piece) : cut piece = (piece, none) := by
  induction piece with
  | nil => rfl
  | cons octet piece ih =>
    simp only [List.mem_cons, not_or] at unbroken
    rw [cut, if_neg (Ne.symm unbroken.1), ih unbroken.2]

variable {failure : Option OsError} {lines : Nat}

theorem next?_line (unbroken : lineFeed ∉ piece) :
    next? ⟨⟨piece ++ lineFeed :: rest, failure⟩, lines⟩ =
      .ok (some (lineText piece, ⟨⟨rest, failure⟩, lines + 1⟩)) := by
  simp only [next?, cut_line unbroken]

theorem next?_last (unbroken : lineFeed ∉ piece) (held : piece ≠ []) :
    next? ⟨⟨piece, none⟩, lines⟩ = .ok (some (lineText piece, ⟨⟨[], none⟩, lines + 1⟩)) := by
  simp [next?, cut_last unbroken, held]

theorem next?_failing (unbroken : lineFeed ∉ piece) (cause : OsError) :
    next? ⟨⟨piece, some cause⟩, lines⟩ = .error ⟨lines + 1, cause⟩ := by
  simp only [next?, cut_last unbroken]

end Steps

section Reading

variable {reader after : LineReader}

theorem readAll_of_error {error : ReadError} (h : reader.next? = .error error) :
    reader.readAll = ([], some error) := by
  rw [readAll]
  split <;> simp_all

theorem readAll_of_end (h : reader.next? = .ok none) : reader.readAll = ([], none) := by
  rw [readAll]
  split <;> simp_all

theorem readAll_of_line {line : String} (h : reader.next? = .ok (some (line, after))) :
    reader.readAll = (line :: after.readAll.1, after.readAll.2) := by
  rw [readAll]
  split
  · next h' => cases h.symm.trans h'
  · next h' => cases h.symm.trans h'
  · next h' =>
    cases h.symm.trans h'
    rfl

theorem readAll_working (octets : List UInt8) (lines : Nat) :
    readAll ⟨⟨octets, none⟩, lines⟩ = ((linePieces octets).map lineText, none) := by
  induction octets using lines_induction generalizing lines with
  | last piece unbroken =>
    by_cases empty : piece = []
    · subst empty
      exact readAll_of_end rfl
    · rw [readAll_of_line (next?_last unbroken empty), linePieces_last unbroken empty,
        readAll_of_end rfl]
      rfl
  | line piece rest unbroken ih =>
    rw [readAll_of_line (next?_line unbroken), linePieces_line unbroken, ih, List.map_cons]

theorem readAll_failing (ends : EndsLine whole) (unbroken : lineFeed ∉ piece) (cause : OsError)
    (lines : Nat) : readAll ⟨⟨whole ++ piece, some cause⟩, lines⟩ =
      ((linePieces whole).map lineText, some ⟨lines + whole.count lineFeed + 1, cause⟩) := by
  induction whole using lines_induction generalizing lines with
  | last empty none =>
    rw [ends.eq_nil none, List.nil_append, readAll_of_error (next?_failing unbroken cause)]
    rfl
  | line first rest unbroken' ih =>
    rw [List.append_assoc, List.cons_append, readAll_of_line (next?_line unbroken'),
      ih ends.of_line, linePieces_line unbroken', List.map_cons, List.count_append,
      List.count_eq_zero.mpr unbroken', List.count_cons_self]
    simp only [Nat.zero_add, Nat.add_right_comm, Nat.add_assoc]

end Reading

theorem areLines_iff {lines : List String} :
    AreLines octets lines ↔ lines = (linePieces octets).map lineText := by
  have text (piece : List UInt8) (line : String) :
      Decodes (dropReturn piece) line.toList ↔ line = lineText piece := by
    rw [← decodeLossy_eq_iff, lineText, ofUtf8Lossy]
    constructor
    · intro decoded
      rw [decoded, String.ofList_toList]
    · rintro rfl
      rw [String.toList_ofList]
  simp only [AreLines, text]
  generalize linePieces octets = pieces
  induction pieces generalizing lines with
  | nil => simp
  | cons piece pieces ih =>
    rw [List.forall₂_cons_left_iff, List.map_cons]
    constructor
    · rintro ⟨line, rest, rfl, same, rfl⟩
      rw [ih.mp same]
    · rintro rfl
      exact ⟨_, _, rfl, ih.mpr rfl, rfl⟩

section Written

open String (utf8EncodeChar)

theorem lineFeed_not_mem {line : String} (unbroken : '\n' ∉ line.toList) :
    lineFeed ∉ utf8 line := by
  rwa [mem_utf8_iff (by decide)]

theorem dropReturn_append (octets : List UInt8) :
    dropReturn (octets ++ [carriageReturn]) = octets := by
  simp [dropReturn]

theorem dropReturn_encoded (text : List Char) : dropReturn (text.flatMap utf8EncodeChar) =
    (if text.getLast? = some '\r' then text.dropLast else text).flatMap utf8EncodeChar := by
  rcases List.eq_nil_or_concat text with rfl | ⟨front, c, rfl⟩
  · rfl
  · rw [List.concat_eq_append, List.getLast?_concat, List.flatMap_append, List.flatMap_singleton]
    by_cases same : c = '\r'
    · subst same
      rw [if_pos rfl, List.dropLast_concat]
      exact dropReturn_append _
    · have other : ¬ some c = some '\r' := fun h => same (Option.some.inj h)
      rw [if_neg other, dropReturn, if_neg, List.flatMap_append, List.flatMap_singleton]
      rw [List.getLast?_append_of_ne_nil _ String.utf8EncodeChar_ne_nil]
      intro final
      exact same (encode_of_mem (List.mem_of_getLast? final) (by decide))

theorem lineText_utf8 (line : String) : (lineText (utf8 line)).toList =
    if line.toList.getLast? = some '\r' then line.toList.dropLast else line.toList := by
  rw [lineText, utf8_eq_flatMap, dropReturn_encoded, ofUtf8Lossy,
    decodeLossy_eq_iff.mpr (decodes_flatMap _), String.toList_ofList]

theorem lineText_return (line : String) : lineText (utf8 line ++ [carriageReturn]) = line := by
  rw [lineText, dropReturn_append, ofUtf8Lossy_utf8]

end Written

end AccessTrace.LineReader
