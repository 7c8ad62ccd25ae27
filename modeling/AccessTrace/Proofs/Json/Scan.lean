import Mathlib.Data.List.TakeWhile
import AccessTrace.Json.Shape

namespace AccessTrace.Json

def IsClosing (b : UInt8) : Prop :=
  b = octet ',' ∨ b = octet '}' ∨ b = octet ']'

def Closes (behind : List UInt8) : Prop :=
  ∃ b rest, behind = b :: rest ∧ IsClosing b

def Anything (_ : List UInt8) : Prop := True

namespace Scan

variable {α β : Type} {B C : List UInt8 → Prop} {scan : Scan α} {next : α → Scan β}
  {octets more : List UInt8} {a : α} {b : β}

/-- The step takes the octets if what stands behind them is as it has to be, and gives a value. -/
def Takes (B : List UInt8 → Prop) (scan : Scan α) (octets : List UInt8) (a : α) : Prop :=
  ∀ rest failure, B rest → scan.run ⟨octets ++ rest, failure⟩ = .ok (a, ⟨rest, failure⟩)

theorem takes_pure (a : α) : Takes B (pure a) [] a := fun _ _ _ => rfl

theorem Takes.bind_behind (first : Takes B scan octets a) (second : Takes C (next a) more b)
    (behind : ∀ rest, C rest → B (more ++ rest)) :
    Takes C (scan >>= next) (octets ++ more) b := by
  intro rest failure h
  rw [List.append_assoc, StateT.run_bind, first _ failure (behind rest h)]
  exact second rest failure h

theorem Takes.bind (first : Takes Anything scan octets a) (second : Takes C (next a) more b) :
    Takes C (scan >>= next) (octets ++ more) b :=
  first.bind_behind second fun _ _ => trivial

theorem Takes.bind_nil (first : Takes B scan octets a) (second : Takes B (next a) [] b) :
    Takes B (scan >>= next) octets b := by
  have h := first.bind_behind second fun _ h => h
  rwa [List.append_nil] at h

section Octets

variable (c : UInt8) (rest : List UInt8) (failure : Option OsError)

theorem run_peek : peek.run ⟨c :: rest, failure⟩ = .ok (some c, ⟨c :: rest, failure⟩) := rfl

theorem run_token (solid : isBlank c = false) :
    token.run ⟨c :: rest, failure⟩ = .ok (some c, ⟨c :: rest, failure⟩) := by
  have kept : (c :: rest).dropWhile isBlank = c :: rest :=
    List.dropWhile_cons_of_neg (by rw [solid]; exact Bool.false_ne_true)
  rw [token, StateT.run_bind]
  change peek.run ⟨(c :: rest).dropWhile isBlank, failure⟩ = _
  rw [kept, run_peek]

theorem run_needToken (solid : isBlank c = false) :
    needToken.run ⟨c :: rest, failure⟩ = .ok (c, ⟨c :: rest, failure⟩) := by
  rw [needToken, StateT.run_bind, run_token c rest failure solid]
  rfl

end Octets

theorem takes_next (c : UInt8) : Takes B Scan.next [c] (some c) := fun _ _ _ => rfl

theorem takes_skip (c : UInt8) : Takes B skip [c] () := fun _ _ _ => rfl

theorem takes_of_token {next : Option UInt8 → Scan β} {c : UInt8} (solid : isBlank c = false)
    (second : Takes C (next (some c)) (c :: more) b) : Takes C (token >>= next) (c :: more) b := by
  intro rest failure h
  rw [List.cons_append, StateT.run_bind, run_token c _ failure solid]
  exact second rest failure h

theorem takes_of_needToken {next : UInt8 → Scan β} {c : UInt8} (solid : isBlank c = false)
    (second : Takes C (next c) (c :: more) b) : Takes C (needToken >>= next) (c :: more) b := by
  intro rest failure h
  rw [List.cons_append, StateT.run_bind, run_needToken c _ failure solid]
  exact second rest failure h

theorem takes_of_peek {next : Option UInt8 → Scan β} {c : UInt8}
    (second : Takes C (next (some c)) (c :: more) b) : Takes C (peek >>= next) (c :: more) b :=
  fun rest failure h => second rest failure h

theorem takes_of_peek_behind {next : Option UInt8 → Scan β}
    (second : ∀ c, IsClosing c → Takes Closes (next (some c)) [] b) :
    Takes Closes (peek >>= next) [] b := by
  rintro _ failure ⟨c, rest, rfl, closing⟩
  exact second c closing (c :: rest) failure ⟨c, rest, rfl, closing⟩

theorem takes_of_get {next : Source → Scan β}
    (second : ∀ source, more.length ≤ source.octets.length → Takes C (next source) more b) :
    Takes C (get >>= next) more b := by
  intro rest failure h
  have long : more.length ≤ (more ++ rest).length := by simp
  exact second ⟨more ++ rest, failure⟩ long rest failure h

theorem takes_takeWhile {holds : UInt8 → Bool} (all : ∀ c ∈ octets, holds c)
    (stops : ∀ rest, B rest → rest.head?.any holds = false) :
    Takes B (takeWhile holds) octets octets := by
  intro rest failure h
  have stop : rest.takeWhile holds = [] ∧ rest.dropWhile holds = rest := by
    have head := stops rest h
    cases rest with
    | nil => exact ⟨rfl, rfl⟩
    | cons c more =>
      have no : ¬ holds c = true := by simpa using head
      exact ⟨List.takeWhile_cons_of_neg no, List.dropWhile_cons_of_neg no⟩
  have taken : (octets ++ rest).takeWhile holds = octets := by
    rw [List.takeWhile_append_of_pos all, stop.1, List.append_nil]
  have left : (octets ++ rest).dropWhile holds = rest := by
    rw [List.dropWhile_append_of_pos all, stop.2]
  change Except.ok ((octets ++ rest).takeWhile holds,
    (⟨(octets ++ rest).dropWhile holds, failure⟩ : Source)) = _
  rw [taken, left]

theorem takes_exactly (word : List UInt8) : Takes B (exactly word) word () := by
  induction word with
  | nil => exact takes_pure ()
  | cons c rest ih =>
    have step : Takes B (exactly (c :: rest)) ([c] ++ rest) () := by
      refine (takes_next c).bind ?_
      simp only [if_true]
      exact ih
    exact step

theorem takes_take {read : List UInt8 → Except TokenFault (α × List UInt8)}
    (reads : ∀ rest, B rest → read (octets ++ rest) = .ok (a, rest)) :
    Takes B (take read) octets a := by
  intro rest failure h
  have got := reads rest h
  simp only [take, StateT.run_bind, StateT.run_get, pure_bind, got]
  rfl

theorem run_finish (rest : List UInt8) :
    finish.run ⟨rest, none⟩ =
      if rest.all isBlank then .ok ((), ⟨[], none⟩) else .error .malformed := by
  have seen : token.run ⟨rest, none⟩ = peek.run ⟨rest.dropWhile isBlank, none⟩ := rfl
  rw [finish, StateT.run_bind, seen]
  cases left : rest.dropWhile isBlank with
  | nil =>
    rw [if_pos (List.all_eq_true.mpr (List.dropWhile_eq_nil_iff.mp left))]
    rfl
  | cons b more =>
    have other : ¬ rest.all isBlank = true := by
      intro all
      have none_left := List.dropWhile_eq_nil_iff.mpr (List.all_eq_true.mp all)
      rw [left] at none_left
      cases none_left
    rw [if_neg other]
    rfl

theorem document_of_takes (takes : Takes Anything scan octets a) (rest : List UInt8) :
    document scan { octets := octets ++ rest } =
      if rest.all isBlank then .ok a else .error .malformed := by
  have run : (do let a ← scan; finish; return a : Scan α).run ⟨octets ++ rest, none⟩ =
      if rest.all isBlank then .ok (a, ⟨[], none⟩) else .error .malformed := by
    rw [StateT.run_bind, takes rest none trivial]
    change (finish >>= fun _ => pure a : Scan α).run ⟨rest, none⟩ = _
    rw [StateT.run_bind, run_finish rest]
    split <;> rfl
  simp only [StateT.run] at run
  rw [document, StateT.run', run]
  split <;> rfl

end Scan

end AccessTrace.Json
