import AccessTrace.Proofs.Json.Text

namespace AccessTrace.Json

def Ahead (c : UInt8) (behind : List UInt8) : Prop :=
  ∃ rest, behind = c :: rest

def separator (first : Bool) : List UInt8 := if first then [] else [octet ',']

def writeMembers : Bool → List (String × List UInt8) → List UInt8
  | _, [] => []
  | first, (key, value) :: rest =>
    separator first ++ (writeText key ++ (octet ':' :: value ++ writeMembers false rest))

def writeItems {α : Type} (write : α → List UInt8) : Bool → List α → List UInt8
  | _, [] => []
  | first, a :: rest => separator first ++ (write a ++ writeItems write false rest)

namespace Scan

variable {α σ : Type} {B : List UInt8 → Prop} {octets : List UInt8} {a : α}

theorem takes_endArray : Takes B endArray [octet ']'] () := fun _ _ _ => rfl

theorem takes_colon : Takes B colon [octet ':'] () := fun _ _ _ => rfl

theorem takes_once {value : Scan α} (takes : Takes B value octets a) :
    Takes B (once none value) (octet ':' :: octets) (some a) :=
  takes_colon.bind (takes.bind_nil (takes_pure (some a)))

section Members

variable {member : String → σ → Scan σ} {s t : σ} {all : List (String × List UInt8)}

/-- What members do to a state one after another. -/
inductive Fills (member : String → σ → Scan σ) : σ → List (String × List UInt8) → σ → Prop where
  | nil (s : σ) : Fills member s [] s
  | cons {s u t : σ} {key : String} {value : List UInt8} {rest : List (String × List UInt8)}
      (first : Takes Closes (member key s) (octet ':' :: value) u) (more : Fills member u rest t) :
      Fills member s ((key, value) :: rest) t

theorem closes_members (all : List (String × List UInt8)) {rest : List UInt8}
    (ahead : Ahead (octet '}') rest) : Closes (writeMembers false all ++ rest) := by
  obtain ⟨more, rfl⟩ := ahead
  cases all with
  | nil => exact ⟨_, _, rfl, .inr (.inl rfl)⟩
  | cons entry all => exact ⟨_, _, rfl, .inl rfl⟩

theorem length_le_writeMembers (first : Bool) (all : List (String × List UInt8)) :
    all.length ≤ (writeMembers first all).length := by
  induction all generalizing first with
  | nil => exact Nat.zero_le _
  | cons entry all ih =>
    have more := ih false
    simp only [writeMembers, List.length_append, List.length_cons]
    omega

theorem takes_hasMember (first : Bool) :
    Takes (Ahead (octet '"')) (hasMember first) (separator first) true := by
  rintro _ failure ⟨rest, rfl⟩
  cases first <;> rfl

theorem takes_members (fills : Fills member s all t) {steps : Nat} (enough : all.length < steps)
    (first : Bool) :
    Takes (Ahead (octet '}')) (members member steps first s) (writeMembers first all) t := by
  induction fills generalizing steps first with
  | nil s =>
    rintro _ failure ⟨rest, rfl⟩
    cases steps with
    | zero => exact absurd enough (Nat.not_lt_zero _)
    | succ steps => rfl
  | @cons s u t key value rest one _ ih =>
    cases steps with
    | zero => exact absurd enough (Nat.not_lt_zero _)
    | succ steps =>
      have more := ih (Nat.lt_of_succ_lt_succ enough) false
      refine (takes_hasMember first).bind_behind ?_ fun _ _ => ⟨_, rfl⟩
      simp only [if_true]
      refine (takes_text key).bind ?_
      exact one.bind_behind more fun _ ahead => closes_members rest ahead

theorem takes_fields (fills : Fills member s all t) :
    Takes (Ahead (octet '}')) (fields member s) (writeMembers true all) t :=
  takes_of_get fun _ long =>
    takes_members fills
      (Nat.lt_succ_of_le (Nat.le_trans (length_le_writeMembers true all) long)) true

theorem takes_structured {inOrder byName : Scan α}
    (takes : Takes (Ahead (octet '}')) byName octets a) :
    Takes B (structured inOrder byName) (octet '{' :: (octets ++ [octet '}'])) a := by
  refine takes_of_needToken (by decide) ?_
  rw [if_neg (by decide), if_pos rfl]
  refine (takes_skip _).bind ?_
  refine takes.bind_behind ?_ fun _ _ => ⟨_, rfl⟩
  exact (takes_skip _).bind_nil (takes_pure a)

end Members

section Items

variable {value : Scan α} {write : α → List UInt8} {all : List α}

def Begins (octets : List UInt8) : Prop :=
  ∃ b rest, octets = b :: rest ∧ isBlank b = false ∧ b ≠ octet ']'

theorem Begins.append {octets : List UInt8} (begins : Begins octets) (rest : List UInt8) :
    Begins (octets ++ rest) := by
  obtain ⟨b, more, rfl, solid, inside⟩ := begins
  exact ⟨b, more ++ rest, rfl, solid, inside⟩

theorem takes_of_begins {next : UInt8 → Scan α}
    (second : ∀ b, b ≠ octet ']' → Takes Begins (next b) [] a) :
    Takes Begins (needToken >>= next) [] a := by
  rintro _ failure ⟨b, rest, rfl, solid, inside⟩
  rw [List.nil_append, StateT.run_bind, run_needToken b rest failure solid]
  exact second b inside _ failure ⟨b, rest, rfl, solid, inside⟩

theorem takes_hasItem (first : Bool) : Takes Begins (hasItem first) (separator first) true := by
  cases first with
  | true =>
    refine takes_of_begins fun b inside => ?_
    simp only [inside, if_false, if_true]
    exact takes_pure true
  | false =>
    refine takes_of_needToken (by decide) ?_
    rw [if_neg (by decide), if_neg Bool.false_ne_true, if_pos rfl]
    refine (takes_skip _).bind (takes_of_begins fun b inside => ?_)
    rw [if_neg inside]
    exact takes_pure true

theorem closes_items (write : α → List UInt8) (all : List α) {rest : List UInt8}
    (ahead : Ahead (octet ']') rest) : Closes (writeItems write false all ++ rest) := by
  obtain ⟨more, rfl⟩ := ahead
  cases all with
  | nil => exact ⟨_, _, rfl, .inr (.inr rfl)⟩
  | cons a all => exact ⟨_, _, rfl, .inl rfl⟩

theorem length_le_writeItems (write : α → List UInt8) (begins : ∀ a ∈ all, Begins (write a))
    (first : Bool) : all.length ≤ (writeItems write first all).length := by
  induction all generalizing first with
  | nil => exact Nat.zero_le _
  | cons a all ih =>
    obtain ⟨one, begins⟩ := List.forall_mem_cons.mp begins
    obtain ⟨b, rest, written, -, -⟩ := one
    have more := ih begins false
    simp only [writeItems, written, List.length_append, List.length_cons]
    omega

theorem takes_items (begins : ∀ a ∈ all, Begins (write a))
    (takes : ∀ a ∈ all, Takes Closes value (write a) a) {steps : Nat}
    (enough : all.length < steps) (first : Bool) :
    Takes (Ahead (octet ']')) (items value steps first) (writeItems write first all) all := by
  induction all generalizing steps first with
  | nil =>
    rintro _ failure ⟨rest, rfl⟩
    cases steps with
    | zero => exact absurd enough (Nat.not_lt_zero _)
    | succ steps => rfl
  | cons a all ih =>
    cases steps with
    | zero => exact absurd enough (Nat.not_lt_zero _)
    | succ steps =>
      obtain ⟨begin, begins⟩ := List.forall_mem_cons.mp begins
      obtain ⟨one, takes⟩ := List.forall_mem_cons.mp takes
      have more := ih begins takes (Nat.lt_of_succ_lt_succ enough) false
      refine (takes_hasItem first).bind_behind ?_ fun rest _ => ?_
      · simp only [if_true]
        refine one.bind_behind ?_ fun _ ahead => closes_items write all ahead
        exact more.bind_nil (takes_pure _)
      · rw [List.append_assoc]
        exact begin.append _

theorem takes_list (begins : ∀ a ∈ all, Begins (write a))
    (takes : ∀ a ∈ all, Takes Closes value (write a) a) :
    Takes B (list value) (octet '[' :: (writeItems write true all ++ [octet ']'])) all := by
  have short := length_le_writeItems write begins true
  refine takes_of_needToken (by decide) ?_
  rw [if_pos rfl]
  refine (takes_skip _).bind (takes_of_get fun source long => ?_)
  have enough : all.length < source.octets.length + 1 := by
    change (writeItems write true all ++ [octet ']']).length ≤ _ at long
    rw [List.length_append] at long
    omega
  refine (takes_items begins takes enough true).bind_behind ?_ fun _ _ => ⟨_, rfl⟩
  exact takes_endArray.bind_nil (takes_pure all)

end Items

end Scan

end AccessTrace.Json
