import AccessTrace.Proofs.Numeral.Grammar
import AccessTrace.Proofs.Text.Blank
import AccessTrace.Trace.Line

namespace AccessTrace.TraceLine

open Text

section Grammar

def IsClock (word : List Char) : Prop :=
  word = "clk".toList ∨ "clk=".toList <+: word

/-- The text at the first clock marker: what follows its equals sign or, if the marker stands
alone, the next word. -/
inductive ClockText : List (List Char) → List Char → Prop where
  | alone {front rest : List (List Char)} (first : ∀ word ∈ front, ¬ IsClock word) :
      ClockText (front ++ "clk".toList :: rest) (rest.head?.getD [])
  | value {front rest : List (List Char)} {text : List Char}
      (first : ∀ word ∈ front, ¬ IsClock word) :
      ClockText (front ++ ("clk=".toList ++ text) :: rest) text

/-- The digits that the text begins with, all of them, denote the cycle. -/
def IsCycle (text : List Char) (cycle : Cycle) : Prop :=
  ∃ digits rest, text = digits ++ rest ∧ (∀ c ∈ rest.head?, ¬ c.isDigit) ∧
    Numeral.Denotes 10 digits cycle

def Unquotes (value text : List Char) : Prop :=
  ∃ before behind, value = List.replicate before '"' ++ text ++ List.replicate behind '"' ∧
    text.head? ≠ some '"' ∧ text.getLast? ≠ some '"'

/-- The text of a field, which is the first word that begins with its name and an equals sign. -/
def FieldText (name : String) (words : List (List Char)) (text : List Char) : Prop :=
  ∃ front value rest, words = front ++ (name.toList ++ ['='] ++ value) :: rest ∧
    (∀ word ∈ front, ¬ name.toList ++ ['='] <+: word) ∧ Unquotes value text

def IsName (text : List Char) (id : AccessId) : Prop :=
  ∃ digits, text = 'A' :: '-' :: digits ∧ Numeral.Denotes 10 digits id.number

def IsKind (text : List Char) (kind : AccessKind) : Prop :=
  text ≠ [] ∧ (∀ c ∈ text, isWordChar c) ∧ kind = .ofName (String.ofList text)

/-- What the text of a field means, and the error if it means nothing. -/
structure FieldRule (α : Type) where
  name : String
  Means : List Char → α → Prop
  Fails : List Char → LineError → Prop

def FieldRule.plain {α : Type} (name : String) (Means : List Char → α → Prop)
    (fault : String → LineError) : FieldRule α where
  name := name
  Means := Means
  Fails text error := (∀ a, ¬ Means text a) ∧ error = fault (String.ofList text)

def nameRule : FieldRule AccessId :=
  .plain "name" IsName .invalidName

def kindRule : FieldRule AccessKind :=
  .plain "type" IsKind .invalidKind

def addressRule : FieldRule Address where
  name := "addr"
  Means := Numeral.Writes
  Fails text error := ∃ reason, Numeral.parse text = .error reason ∧
    error = .invalidAddress (String.ofList text) reason

/-- What the words give for a field. -/
inductive FieldRule.Gives {α : Type} (rule : FieldRule α) (words : List (List Char)) :
    Except LineError α → Prop where
  | value {text : List Char} {a : α} (field : FieldText rule.name words text)
      (means : rule.Means text a) : Gives rule words (.ok a)
  | invalid {text : List Char} {error : LineError} (field : FieldText rule.name words text)
      (fails : rule.Fails text error) : Gives rule words (.error error)
  | missing (none : ∀ word ∈ words, ¬ rule.name.toList ++ ['='] <+: word) :
      Gives rule words (.error (.missingField rule.name))

/-- What the words of a line that starts an access give. The first field that is bad gives the
error. -/
inductive Starts (words : List (List Char)) : Except LineError TraceLine → Prop where
  | access {id : AccessId} {kind : AccessKind} {address : Address}
      (name : nameRule.Gives words (.ok id)) (type : kindRule.Gives words (.ok kind))
      (addr : addressRule.Gives words (.ok address)) :
      Starts words (.ok (.newAccess id kind address))
  | badName {error : LineError} (name : nameRule.Gives words (.error error)) :
      Starts words (.error error)
  | badKind {id : AccessId} {error : LineError} (name : nameRule.Gives words (.ok id))
      (type : kindRule.Gives words (.error error)) : Starts words (.error error)
  | badAddress {id : AccessId} {kind : AccessKind} {error : LineError}
      (name : nameRule.Gives words (.ok id)) (type : kindRule.Gives words (.ok kind))
      (addr : addressRule.Gives words (.error error)) : Starts words (.error error)

inductive Ends (words : List (List Char)) : Except LineError TraceLine → Prop where
  | access {id : AccessId} (name : nameRule.Gives words (.ok id)) : Ends words (.ok (.endAccess id))
  | badName {error : LineError} (name : nameRule.Gives words (.error error)) :
      Ends words (.error error)

def HasMarker (marker : String) (words : List (List Char)) : Prop :=
  ∃ word ∈ words, marker.toList <:+ word

/-- What the words of a line give. A clock marker goes before the others, and the marker of a start
before that of an end. -/
inductive Gives (words : List (List Char)) : Except LineError TraceLine → Prop where
  | clock {text : List Char} {cycle : Cycle} (marker : ClockText words text)
      (means : IsCycle text cycle) : Gives words (.ok (.clock cycle))
  | badCycle {text : List Char} (marker : ClockText words text)
      (none : ∀ cycle, ¬ IsCycle text cycle) :
      Gives words (.error (.invalidCycle (String.ofList text)))
  | start {result : Except LineError TraceLine} (timeless : ∀ word ∈ words, ¬ IsClock word)
      (marker : HasMarker "new_access" words) (starts : Starts words result) : Gives words result
  | stop {result : Except LineError TraceLine} (timeless : ∀ word ∈ words, ¬ IsClock word)
      (unstarted : ¬ HasMarker "new_access" words) (marker : HasMarker "end_access" words)
      (ends : Ends words result) : Gives words result
  | other (timeless : ∀ word ∈ words, ¬ IsClock word)
      (unstarted : ¬ HasMarker "new_access" words) (unended : ¬ HasMarker "end_access" words) :
      Gives words (.ok .other)

end Grammar

variable {name text word rest : List Char} {words : List (List Char)}

theorem after?_eq_some_iff : after? name text = some rest ↔ text = name ++ rest := by
  unfold after?
  constructor
  · intro found
    split at found
    · next front =>
      obtain ⟨behind, rfl⟩ := List.isPrefixOf_iff_prefix.mp front
      rw [List.drop_left] at found
      rw [Option.some.inj found]
    · cases found
  · rintro rfl
    simp

theorem after?_eq_none_iff : after? name text = none ↔ ¬ name <+: text := by
  rw [← Option.not_isSome_iff_eq_none, Option.isSome_iff_exists]
  simp only [after?_eq_some_iff]
  exact not_congr (exists_congr fun _ => eq_comm)

theorem eq_error_iff {α : Type} {result : Except LineError α} {fault error : LineError}
    (only : (∃ a, result = .ok a) ∨ result = .error fault) :
    result = .error error ↔ (∀ a, result ≠ .ok a) ∧ error = fault := by
  rcases only with ⟨a, rfl⟩ | rfl
  · exact ⟨nofun, fun none => absurd rfl (none.1 a)⟩
  · rw [Except.error.injEq]
    exact ⟨fun same => ⟨nofun, same.symm⟩, fun none => none.2.symm⟩

section Clock

theorem clockText?_cons_of_not (plain : ¬ IsClock word) :
    clockText? (word :: words) = clockText? words := by
  obtain ⟨different, unvalued⟩ := not_or.mp plain
  have none : value? clockMarker word = none := after?_eq_none_iff.mpr unvalued
  simp only [clockText?, none]
  exact if_neg different

theorem clockText?_append {front : List (List Char)} (first : ∀ word ∈ front, ¬ IsClock word)
    (words : List (List Char)) : clockText? (front ++ words) = clockText? words := by
  induction front with
  | nil => rfl
  | cons word front ih =>
    obtain ⟨plain, first⟩ := List.forall_mem_cons.mp first
    rw [List.cons_append, clockText?_cons_of_not plain, ih first]

theorem clockText?_of_timeless (timeless : ∀ word ∈ words, ¬ IsClock word) :
    clockText? words = none := by
  have none := clockText?_append timeless []
  rwa [List.append_nil] at none

theorem ClockText.clockText?_eq (marker : ClockText words text) : clockText? words = some text := by
  cases marker with
  | alone first =>
    rw [clockText?_append first]
    exact if_pos rfl
  | value first =>
    have value : value? clockMarker ("clk=".toList ++ text) = some text :=
      after?_eq_some_iff.mpr rfl
    have longer : "clk=".toList ++ text ≠ clockMarker := by simp [clockMarker]
    rw [clockText?_append first]
    simp only [clockText?, value]
    exact if_neg longer

theorem ClockText.later (plain : ¬ IsClock word) (marker : ClockText words text) :
    ClockText (word :: words) text := by
  cases marker with
  | alone first => exact .alone (List.forall_mem_cons.mpr ⟨plain, first⟩)
  | value first => exact .value (List.forall_mem_cons.mpr ⟨plain, first⟩)

theorem clockText_or_timeless (words : List (List Char)) :
    (∃ text, ClockText words text) ∨ ∀ word ∈ words, ¬ IsClock word := by
  induction words with
  | nil => exact .inr nofun
  | cons word words ih =>
    by_cases clock : IsClock word
    · rcases clock with rfl | ⟨text, rfl⟩
      · exact .inl ⟨_, @ClockText.alone [] words nofun⟩
      · exact .inl ⟨_, @ClockText.value [] words text nofun⟩
    · exact ih.imp (Exists.imp fun _ => ClockText.later clock)
        fun timeless => List.forall_mem_cons.mpr ⟨clock, timeless⟩

theorem readCycle_eq_ok_iff {cycle : Cycle} : readCycle text = .ok cycle ↔ IsCycle text cycle := by
  have digits : ∀ c ∈ text.takeWhile Char.isDigit, c.isDigit :=
    List.all_eq_true.mp List.all_takeWhile
  have read : readCycle text = .ok cycle ↔
      Numeral.decimal (text.takeWhile Char.isDigit) = .ok cycle := by
    unfold readCycle
    split <;> simp_all
  rw [read, Numeral.decimal_eq_ok_iff digits]
  constructor
  · intro denotes
    refine ⟨_, text.dropWhile Char.isDigit, List.takeWhile_append_dropWhile.symm, ?_, denotes⟩
    intro c head
    have stopped := List.head?_dropWhile_not Char.isDigit text
    rw [head] at stopped
    simpa using stopped
  · rintro ⟨front, rest, rfl, stops, denotes⟩
    have none : rest.takeWhile Char.isDigit = [] := by
      cases rest with
      | nil => rfl
      | cons c rest => exact List.takeWhile_cons_of_neg (stops c rfl)
    rwa [List.takeWhile_append_of_pos denotes.isDigit, none, List.append_nil]

theorem readCycle_cases (text : List Char) :
    (∃ cycle, readCycle text = .ok cycle) ∨
      readCycle text = .error (.invalidCycle (String.ofList text)) := by
  unfold readCycle
  split
  · exact .inl ⟨_, rfl⟩
  · exact .inr rfl

end Clock

section Fields

theorem head?_append_ne (some : text ≠ []) (rest : List Char) :
    (text ++ rest).head? = text.head? := by
  rw [List.head?_append, Option.or_of_isSome (List.isSome_head?.mpr some)]

theorem dropWhile_quotes (count : Nat) (closed : text.head? ≠ some '"') :
    (List.replicate count '"' ++ text).dropWhile (· = '"') = text := by
  rw [List.dropWhile_append_of_pos (by simp)]
  cases text with
  | nil => rfl
  | cons c rest => exact List.dropWhile_cons_of_neg (by simpa using closed)

theorem Unquotes.unquoted_eq {value : List Char} (unquotes : Unquotes value text) :
    unquoted value = text := by
  obtain ⟨before, behind, rfl, first, last⟩ := unquotes
  by_cases empty : text = []
  · subst empty
    rw [unquoted, List.append_nil, List.replicate_append_replicate,
      ← List.append_nil (List.replicate _ _), dropWhile_quotes _ first]
    rfl
  · have first' : (text ++ List.replicate behind '"').head? ≠ some '"' := by
      rwa [head?_append_ne empty]
    have last' : text.reverse.head? ≠ some '"' := by rwa [List.head?_reverse]
    rw [unquoted, List.append_assoc, dropWhile_quotes _ first', List.reverse_append,
      List.reverse_replicate, dropWhile_quotes _ last', List.reverse_reverse]

theorem exists_quotes (text : List Char) :
    ∃ count rest, text = List.replicate count '"' ++ rest ∧ rest.head? ≠ some '"' := by
  induction text with
  | nil => exact ⟨0, [], rfl, nofun⟩
  | cons c text ih =>
    by_cases quote : c = '"'
    · obtain ⟨count, rest, rfl, first⟩ := ih
      exact ⟨count + 1, rest, by rw [quote]; rfl, first⟩
    · exact ⟨0, c :: text, rfl, fun head => quote (Option.some.inj head)⟩

theorem exists_unquotes (value : List Char) : ∃ text, Unquotes value text := by
  obtain ⟨before, opened, rfl, first⟩ := exists_quotes value
  obtain ⟨behind, text, backwards, last⟩ := exists_quotes opened.reverse
  have parted : opened = text.reverse ++ List.replicate behind '"' := by
    rw [← List.reverse_reverse opened, backwards, List.reverse_append, List.reverse_replicate]
  refine ⟨text.reverse, before, behind, by rw [parted, List.append_assoc], ?_, ?_⟩
  · by_cases empty : text.reverse = []
    · rw [empty]
      nofun
    · rwa [parted, head?_append_ne empty] at first
  · rwa [List.getLast?_reverse]

theorem unquoted_eq_iff {value : List Char} : unquoted value = text ↔ Unquotes value text := by
  constructor
  · rintro rfl
    obtain ⟨text, unquotes⟩ := exists_unquotes value
    exact unquotes.unquoted_eq ▸ unquotes
  · exact Unquotes.unquoted_eq

theorem field_eq_ok_iff {name : String} : field name words = .ok text ↔ FieldText name words text := by
  have found : field name words = .ok text ↔
      ∃ value, words.findSome? (value? name.toList) = some value ∧ unquoted value = text := by
    unfold field
    cases words.findSome? (value? name.toList) <;> simp
  rw [found]
  constructor
  · rintro ⟨value, first, unquotes⟩
    obtain ⟨front, word, rest, rfl, here, before⟩ := List.findSome?_eq_some_iff.mp first
    rw [value?, after?_eq_some_iff] at here
    exact ⟨front, value, rest, by rw [here], fun word member =>
      after?_eq_none_iff.mp (before word member), unquoted_eq_iff.mp unquotes⟩
  · rintro ⟨front, value, rest, rfl, before, unquotes⟩
    refine ⟨value, List.findSome?_eq_some_iff.mpr ⟨front, _, rest, rfl, ?_, ?_⟩,
      unquoted_eq_iff.mpr unquotes⟩
    · exact after?_eq_some_iff.mpr rfl
    · exact fun word member => after?_eq_none_iff.mpr (before word member)

theorem field_eq_error_iff {name : String} {error : LineError} : field name words = .error error ↔
    (∀ word ∈ words, ¬ name.toList ++ ['='] <+: word) ∧ error = .missingField name := by
  have none : words.findSome? (value? name.toList) = none ↔
      ∀ word ∈ words, ¬ name.toList ++ ['='] <+: word := by
    rw [List.findSome?_eq_none_iff]
    exact forall₂_congr fun word _ => after?_eq_none_iff
  rw [← none, field]
  cases words.findSome? (value? name.toList) <;> simp [eq_comm]

structure FieldRule.IsReadBy {α : Type} (rule : FieldRule α)
    (read : List Char → Except LineError α) : Prop where
  ok : ∀ text a, read text = .ok a ↔ rule.Means text a
  error : ∀ text error, read text = .error error ↔ rule.Fails text error

theorem FieldRule.isReadBy_plain {α : Type} {name : String} {Means : List Char → α → Prop}
    {fault : String → LineError} {read : List Char → Except LineError α}
    (ok : ∀ text a, read text = .ok a ↔ Means text a)
    (only : ∀ text, (∃ a, read text = .ok a) ∨ read text = .error (fault (String.ofList text))) :
    (FieldRule.plain name Means fault).IsReadBy read where
  ok := ok
  error text error := by
    rw [eq_error_iff (only text)]
    exact and_congr_left' (forall_congr' fun a => not_congr (ok text a))

theorem FieldRule.IsReadBy.gives_iff {α : Type} {rule : FieldRule α}
    {read : List Char → Except LineError α} (reads : rule.IsReadBy read)
    {result : Except LineError α} :
    (field rule.name words >>= read) = result ↔ rule.Gives words result := by
  constructor
  · rintro rfl
    cases found : field rule.name words with
    | error error =>
      obtain ⟨none, rfl⟩ := field_eq_error_iff.mp found
      exact .missing none
    | ok text =>
      have text' := field_eq_ok_iff.mp found
      change rule.Gives words (read text)
      cases outcome : read text with
      | ok a => exact .value text' ((reads.ok text a).mp outcome)
      | error error => exact .invalid text' ((reads.error text error).mp outcome)
  · intro gives
    cases gives with
    | value text means =>
      rw [field_eq_ok_iff.mpr text]
      exact (reads.ok _ _).mpr means
    | invalid text fails =>
      rw [field_eq_ok_iff.mpr text]
      exact (reads.error _ _).mpr fails
    | missing none =>
      rw [field_eq_error_iff.mpr ⟨none, rfl⟩]
      rfl

theorem readId_eq_ok_iff {id : AccessId} : readId text = .ok id ↔ IsName text id := by
  cases cut : after? ['A', '-'] text with
  | none =>
    simp only [readId, cut]
    refine ⟨nofun, ?_⟩
    rintro ⟨digits, rfl, -⟩
    exact absurd cut (by simp [after?])
  | some digits =>
    have whole : text = 'A' :: '-' :: digits := after?_eq_some_iff.mp cut
    have name : IsName text id ↔ Numeral.Denotes 10 digits id.number := by
      simp [IsName, whole]
    rw [name]
    by_cases all : ∀ c ∈ digits, c.isDigit
    · rw [← Numeral.decimal_eq_ok_iff all]
      simp only [readId, cut, List.all_eq_true.mpr all, if_true]
      cases Numeral.decimal digits with
      | ok n => exact ⟨fun same => by cases same; rfl, fun same => by cases same; rfl⟩
      | error reason => exact ⟨nofun, nofun⟩
    · simp only [readId, cut, List.all_eq_true, all, if_false]
      exact ⟨nofun, fun denotes => absurd denotes.isDigit all⟩

theorem readId_cases (text : List Char) : (∃ id, readId text = .ok id) ∨
    readId text = .error (.invalidName (String.ofList text)) := by
  unfold readId
  split
  · exact .inr rfl
  · split
    · split
      · exact .inl ⟨_, rfl⟩
      · exact .inr rfl
    · exact .inr rfl

theorem isReadBy_readId : nameRule.IsReadBy readId :=
  FieldRule.isReadBy_plain (fun _ _ => readId_eq_ok_iff) readId_cases

theorem readKind_eq_ok_iff {kind : AccessKind} : readKind text = .ok kind ↔ IsKind text kind := by
  have word : (!text.isEmpty && text.all isWordChar) = true ↔
      text ≠ [] ∧ ∀ c ∈ text, isWordChar c := by simp
  unfold readKind
  split
  · next held =>
    obtain ⟨some, all⟩ := word.mp held
    rw [Except.ok.injEq]
    exact ⟨fun same => ⟨some, all, same.symm⟩, fun kind => kind.2.2.symm⟩
  · next none =>
    exact ⟨nofun, fun kind => absurd (word.mpr ⟨kind.1, kind.2.1⟩) none⟩

theorem readKind_cases (text : List Char) : (∃ kind, readKind text = .ok kind) ∨
    readKind text = .error (.invalidKind (String.ofList text)) := by
  unfold readKind
  split
  · exact .inl ⟨_, rfl⟩
  · exact .inr rfl

theorem isReadBy_readKind : kindRule.IsReadBy readKind :=
  FieldRule.isReadBy_plain (fun _ _ => readKind_eq_ok_iff) readKind_cases

theorem isReadBy_readAddress : addressRule.IsReadBy readAddress where
  ok text address := by
    refine Iff.trans ?_ Numeral.parse_eq_ok_iff
    rw [readAddress]
    cases Numeral.parse text <;> simp
  error text error := by
    simp only [readAddress, addressRule]
    cases Numeral.parse text <;> simp [eq_comm]

end Fields

section Lines

theorem hasMarker_iff {marker : String} :
    marked marker.toList words = true ↔ HasMarker marker words := by
  simp [marked, HasMarker, List.any_eq_true]

def readStart (words : List (List Char)) : Except LineError TraceLine := do
  let id ← field nameRule.name words >>= readId
  let kind ← field kindRule.name words >>= readKind
  let address ← field addressRule.name words >>= readAddress
  return .newAccess id kind address

theorem readStart_eq_iff {result : Except LineError TraceLine} :
    readStart words = result ↔ Starts words result := by
  constructor
  · rintro rfl
    unfold readStart
    cases name : field nameRule.name words >>= readId with
    | error error => exact .badName (isReadBy_readId.gives_iff.mp name)
    | ok id =>
      have name := isReadBy_readId.gives_iff.mp name
      cases type : field kindRule.name words >>= readKind with
      | error error => exact .badKind name (isReadBy_readKind.gives_iff.mp type)
      | ok kind =>
        have type := isReadBy_readKind.gives_iff.mp type
        cases addr : field addressRule.name words >>= readAddress with
        | error error => exact .badAddress name type (isReadBy_readAddress.gives_iff.mp addr)
        | ok address => exact .access name type (isReadBy_readAddress.gives_iff.mp addr)
  · intro starts
    cases starts with
    | access name type addr =>
      rw [readStart, isReadBy_readId.gives_iff.mpr name, isReadBy_readKind.gives_iff.mpr type,
        isReadBy_readAddress.gives_iff.mpr addr]
      rfl
    | badName name =>
      rw [readStart, isReadBy_readId.gives_iff.mpr name]
      rfl
    | badKind name type =>
      rw [readStart, isReadBy_readId.gives_iff.mpr name, isReadBy_readKind.gives_iff.mpr type]
      rfl
    | badAddress name type addr =>
      rw [readStart, isReadBy_readId.gives_iff.mpr name, isReadBy_readKind.gives_iff.mpr type,
        isReadBy_readAddress.gives_iff.mpr addr]
      rfl

def readEnd (words : List (List Char)) : Except LineError TraceLine := do
  let id ← field nameRule.name words >>= readId
  return .endAccess id

theorem readEnd_eq_iff {result : Except LineError TraceLine} :
    readEnd words = result ↔ Ends words result := by
  constructor
  · rintro rfl
    unfold readEnd
    cases name : field nameRule.name words >>= readId with
    | error error => exact .badName (isReadBy_readId.gives_iff.mp name)
    | ok id => exact .access (isReadBy_readId.gives_iff.mp name)
  · intro ends
    cases ends with
    | access name =>
      rw [readEnd, isReadBy_readId.gives_iff.mpr name]
      rfl
    | badName name =>
      rw [readEnd, isReadBy_readId.gives_iff.mpr name]
      rfl

theorem ofWords_of_clock (marker : ClockText words text) :
    ofWords words = TraceLine.clock <$> readCycle text := by
  rw [ofWords, marker.clockText?_eq]
  rfl

theorem ofWords_of_timeless (timeless : ∀ word ∈ words, ¬ IsClock word) :
    ofWords words =
      if marked newAccessMarker words then readStart words
      else if marked endAccessMarker words then readEnd words
      else .ok .other := by
  rw [ofWords, clockText?_of_timeless timeless]
  simp only [readStart, readEnd, bind_assoc]
  rfl

theorem ofWords_eq_iff {result : Except LineError TraceLine} :
    ofWords words = result ↔ Gives words result := by
  have start : marked newAccessMarker words = true ↔ HasMarker "new_access" words := hasMarker_iff
  have stop : marked endAccessMarker words = true ↔ HasMarker "end_access" words := hasMarker_iff
  constructor
  · rintro rfl
    rcases clockText_or_timeless words with ⟨text, marker⟩ | timeless
    · rw [ofWords_of_clock marker]
      cases read : readCycle text with
      | ok cycle => exact .clock marker (readCycle_eq_ok_iff.mp read)
      | error error =>
        obtain ⟨none, rfl⟩ := (eq_error_iff (readCycle_cases text)).mp read
        exact .badCycle marker fun cycle => none cycle ∘ readCycle_eq_ok_iff.mpr
    · rw [ofWords_of_timeless timeless]
      split
      · next started => exact .start timeless (start.mp started) (readStart_eq_iff.mp rfl)
      · next unstarted =>
        rw [start] at unstarted
        split
        · next ended => exact .stop timeless unstarted (stop.mp ended) (readEnd_eq_iff.mp rfl)
        · next unended => exact .other timeless unstarted ((not_congr stop).mp unended)
  · intro gives
    cases gives with
    | clock marker means =>
      rw [ofWords_of_clock marker, readCycle_eq_ok_iff.mpr means]
      rfl
    | @badCycle text marker none =>
      have read := (eq_error_iff (readCycle_cases text)).mpr
        ⟨fun cycle => none cycle ∘ readCycle_eq_ok_iff.mp, rfl⟩
      rw [ofWords_of_clock marker, read]
      rfl
    | start timeless marker starts =>
      rw [ofWords_of_timeless timeless, if_pos (start.mpr marker), readStart_eq_iff.mpr starts]
    | stop timeless unstarted marker ends =>
      rw [ofWords_of_timeless timeless, if_neg ((not_congr start).mpr unstarted),
        if_pos (stop.mpr marker), readEnd_eq_iff.mpr ends]
    | other timeless unstarted unended =>
      rw [ofWords_of_timeless timeless, if_neg ((not_congr start).mpr unstarted),
        if_neg ((not_congr stop).mpr unended)]

/-- A line is read as its words give by the grammar, which is one thing for every line. -/
theorem parse_eq_iff (line : String) (result : Except LineError TraceLine) :
    parse line = result ↔ ∃ words, HasWords line.toList words ∧ Gives words result := by
  simp only [hasWords_iff, exists_eq_left', ← ofWords_eq_iff]
  rfl

end Lines

end AccessTrace.TraceLine
