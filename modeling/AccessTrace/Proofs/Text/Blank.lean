import AccessTrace.Text.Blank

namespace AccessTrace.Text

variable {α : Type} {separates : α → Bool} {piece : List α}

theorem pieces_of_none (none : ∀ a ∈ piece, separates a = false) :
    pieces separates piece = [piece] := by
  induction piece with
  | nil => rfl
  | cons a rest ih =>
    obtain ⟨first, none⟩ := List.forall_mem_cons.mp none
    simp [pieces, first, ih none]

theorem pieces_append (none : ∀ a ∈ piece, separates a = false) {a : α} (sep : separates a = true)
    (rest : List α) :
    pieces separates (piece ++ a :: rest) = piece :: pieces separates rest := by
  induction piece with
  | nil => simp [pieces, sep]
  | cons b piece ih =>
    obtain ⟨first, none⟩ := List.forall_mem_cons.mp none
    simp [pieces, first, ih none]

theorem pieces_concat {a : α} (sep : separates a = true) (l : List α) :
    pieces separates (l ++ [a]) = pieces separates l ++ [[]] := by
  induction l with
  | nil => simp [pieces, sep]
  | cons b l ih =>
    rw [List.cons_append, pieces, pieces, ih]
    split
    · rfl
    · obtain ⟨piece, others, found⟩ := List.exists_cons_of_ne_nil (pieces_ne_nil separates l)
      rw [found]
      rfl

variable {word : List Char}

theorem unbroken_of_all (all : (word.all fun c => !isBlank c) = true) :
    ∀ c ∈ word, isBlank c = false := by
  intro c member
  simpa using List.all_eq_true.mp all c member

theorem words_of_unbroken (some : word ≠ []) (unbroken : ∀ c ∈ word, isBlank c = false) :
    words word = [word] := by
  simp [words, pieces_of_none unbroken, some]

theorem words_append (some : word ≠ []) (unbroken : ∀ c ∈ word, isBlank c = false) {c : Char}
    (blank : isBlank c = true) (rest : List Char) :
    words (word ++ c :: rest) = word :: words rest := by
  simp [words, pieces_append unbroken blank, some]

theorem words_cons {c : Char} (blank : isBlank c = true) (rest : List Char) :
    words (c :: rest) = words rest := by
  simp [words, pieces, blank]

theorem words_concat {c : Char} (blank : isBlank c = true) (text : List Char) :
    words (text ++ [c]) = words text := by
  simp [words, pieces_concat blank]

/-- The words of a text: no blank stands in one, and each ends at a blank or with the text. -/
inductive HasWords : List Char → List (List Char) → Prop where
  | nil : HasWords [] []
  | blank {c : Char} {rest : List Char} {words : List (List Char)} (blank : isBlank c = true)
      (later : HasWords rest words) : HasWords (c :: rest) words
  | word {word rest : List Char} {words : List (List Char)} (some : word ≠ [])
      (unbroken : ∀ c ∈ word, isBlank c = false) (ends : ∀ c ∈ rest.head?, isBlank c = true)
      (later : HasWords rest words) : HasWords (word ++ rest) (word :: words)

theorem HasWords.words_eq {text : List Char} {all : List (List Char)} (has : HasWords text all) :
    words text = all := by
  induction has with
  | nil => rfl
  | blank blank _ ih => rw [words_cons blank, ih]
  | @word word rest all some unbroken ends _ ih =>
    cases rest with
    | nil => rw [List.append_nil, words_of_unbroken some unbroken, ← ih]; rfl
    | cons c rest =>
      have blank := ends c rfl
      rw [words_append some unbroken blank, ← words_cons blank, ih]

theorem hasWords_words (text : List Char) : HasWords text (words text) := by
  suffices ∃ all, HasWords text all by
    obtain ⟨all, has⟩ := this
    exact has.words_eq ▸ has
  induction size : text.length using Nat.strongRecOn generalizing text with
  | ind _ ih =>
    cases text with
    | nil => exact ⟨[], .nil⟩
    | cons c rest =>
      cases first : isBlank c with
      | true =>
        obtain ⟨all, later⟩ := ih rest.length (size ▸ Nat.lt_succ_self _) rest rfl
        exact ⟨all, .blank first later⟩
      | false =>
        let word := rest.takeWhile fun c => !isBlank c
        let behind := rest.dropWhile fun c => !isBlank c
        have parted : word ++ behind = rest := List.takeWhile_append_dropWhile
        have shorter : behind.length < (c :: rest).length :=
          Nat.lt_succ_of_le (List.dropWhile_suffix _).length_le
        obtain ⟨all, later⟩ := ih behind.length (size ▸ shorter) behind rfl
        have unbroken : ∀ d ∈ c :: word, isBlank d = false := by
          refine List.forall_mem_cons.mpr ⟨first, fun d member => ?_⟩
          simpa using List.all_eq_true.mp List.all_takeWhile d member
        have ends : ∀ d ∈ behind.head?, isBlank d = true := by
          intro d head
          have stopped := List.head?_dropWhile_not (fun c => !isBlank c) rest
          rw [head] at stopped
          simpa using stopped
        have has := HasWords.word (List.cons_ne_nil c word) unbroken ends later
        rw [List.cons_append, parted] at has
        exact ⟨_, has⟩

theorem hasWords_iff {text : List Char} {all : List (List Char)} :
    HasWords text all ↔ words text = all :=
  ⟨HasWords.words_eq, fun same => same ▸ hasWords_words text⟩

end AccessTrace.Text
