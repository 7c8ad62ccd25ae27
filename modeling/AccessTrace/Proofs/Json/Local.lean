import AccessTrace.Proofs.Json.SelfEnding
import AccessTrace.Proofs.Json.Shape

/-! What a step of reading depends on. A step that succeeds has looked at what it takes and at no
more than one octet behind, so it takes the same of every source that goes on in the same way. That
holds of all steps, whatever document they read. -/

namespace AccessTrace.Json

namespace Scan

variable {α β σ : Type} {scan : Scan α} {next : α → Scan β} {source left : Source} {a : α} {b : β}

/-- What the step takes it takes again if there is more behind what it left. Of a step that left
nothing nothing is said, for it may go on. -/
def Local (scan : Scan α) : Prop :=
  ∀ source a left, scan.run source = .ok (a, left) →
    ∃ taken, source = ⟨taken ++ left.octets, left.failure⟩ ∧
      (left.octets ≠ [] → Takes (left.octets <+: ·) scan taken a)

theorem run_bind_eq_ok :
    (scan >>= next).run source = .ok (b, left) ↔
      ∃ a middle, scan.run source = .ok (a, middle) ∧ (next a).run middle = .ok (b, left) := by
  rw [StateT.run_bind]
  cases scan.run source with
  | error error =>
    constructor
    · intro run
      cases run
    · rintro ⟨a, middle, run, -⟩
      cases run
  | ok result =>
    constructor
    · intro run
      exact ⟨result.1, result.2, rfl, run⟩
    · rintro ⟨a, middle, ⟨⟩, run⟩
      exact run

theorem local_pure (a : α) : Local (pure a) := by
  intro source _ left run
  cases run
  exact ⟨[], rfl, fun _ => takes_pure a⟩

theorem local_throw (error : JsonError) : Local (throw error : Scan α) := by
  intro source a left run
  cases run

theorem Local.bind (first : Local scan) (second : ∀ a, Local (next a)) :
    Local (scan >>= next) := by
  intro source b left run
  obtain ⟨a, middle, run, run'⟩ := run_bind_eq_ok.mp run
  obtain ⟨taken, rfl, takes⟩ := first source a middle run
  obtain ⟨taken', rfl, takes'⟩ := second a middle b left run'
  refine ⟨taken ++ taken', by simp, fun more => ?_⟩
  refine (takes ?_).bind_behind (takes' more) fun rest behind => ?_
  · exact List.append_ne_nil_of_right_ne_nil taken' more
  · exact (List.prefix_append_right_inj taken').mpr behind

theorem Local.ite {condition : Prop} [Decidable condition] {other : Scan α} (first : Local scan)
    (second : Local other) : Local (if condition then scan else other) := by
  split
  · exact first
  · exact second

section Octets

theorem local_peek : Local peek := by
  rintro ⟨octets, failure⟩ b left run
  cases octets with
  | nil =>
    cases failure with
    | none =>
      cases run
      exact ⟨[], rfl, fun none => absurd rfl none⟩
    | some cause => cases run
  | cons c rest =>
    cases run
    refine ⟨[], rfl, fun _ => ?_⟩
    rintro _ failure ⟨more, rfl⟩
    rfl

theorem local_skip : Local skip := by
  rintro ⟨octets, failure⟩ _ left run
  cases run
  cases octets with
  | nil => exact ⟨[], rfl, fun none => absurd rfl none⟩
  | cons c rest => exact ⟨[c], rfl, fun _ => takes_skip c⟩

theorem Local.maybe {condition : Prop} [Decidable condition] (rest : Local scan) :
    Local (if condition then skip >>= fun _ => scan else scan) :=
  .ite (local_skip.bind fun _ => rest) rest

theorem local_next : Local Scan.next :=
  local_peek.bind fun b => local_skip.bind fun _ => local_pure b

theorem takes_takeWhile_dropWhile {holds : UInt8 → Bool} {octets : List UInt8}
    (more : octets.dropWhile holds ≠ []) :
    Takes (octets.dropWhile holds <+: ·) (takeWhile holds) (octets.takeWhile holds)
      (octets.takeWhile holds) := by
  refine takes_takeWhile (fun c member => List.mem_takeWhile_imp member) ?_
  rintro _ ⟨rest, rfl⟩
  have stop := List.head_dropWhile_not holds more
  cases known : octets.dropWhile holds with
  | nil => exact absurd known more
  | cons c behind =>
    simp only [known, List.head_cons] at stop
    simp [stop]

theorem local_takeWhile (holds : UInt8 → Bool) : Local (takeWhile holds) := by
  rintro ⟨octets, failure⟩ _ left run
  cases run
  refine ⟨octets.takeWhile holds, ?_, takes_takeWhile_dropWhile⟩
  rw [List.takeWhile_append_dropWhile]

theorem local_token : Local token := by
  have blanks : token = takeWhile isBlank >>= fun _ => peek := rfl
  rw [blanks]
  exact (local_takeWhile isBlank).bind fun _ => local_peek

theorem local_needToken : Local needToken := by
  refine local_token.bind fun b => ?_
  cases b with
  | none => exact local_throw _
  | some b => exact local_pure b

theorem local_exactly (word : List UInt8) : Local (exactly word) := by
  induction word with
  | nil => exact local_pure ()
  | cons c rest ih =>
    refine local_next.bind fun b => ?_
    cases b with
    | none => exact local_throw _
    | some b => exact ih.ite (local_throw _)

theorem ahead_of_needToken {c : UInt8} (run : needToken.run source = .ok (c, left)) :
    Ahead c left.octets := by
  obtain ⟨b, middle, run, run'⟩ := run_bind_eq_ok.mp run
  cases b with
  | none => cases run'
  | some b =>
    cases run'
    have looked : peek.run ⟨source.octets.dropWhile isBlank, source.failure⟩ =
      .ok (some c, left) := run
    revert looked
    generalize source.octets.dropWhile isBlank = octets
    intro looked
    cases octets with
    | nil => cases known : source.failure <;> rw [known] at looked <;> cases looked
    | cons d rest =>
      cases looked
      exact ⟨rest, rfl⟩

end Octets

section Texts

theorem local_take {read : List UInt8 → Except TokenFault (α × List UInt8)}
    (ends : SelfEnding read) : Local (take read) := by
  rintro ⟨octets, failure⟩ a left run
  cases result : read octets with
  | error fault =>
    simp only [take, StateT.run_bind, StateT.run_get, pure_bind, result] at run
    cases fault with
    | malformed => cases run
    | ended => cases failure <;> cases run
  | ok token =>
    simp only [take, StateT.run_bind, StateT.run_get, pure_bind, result] at run
    cases run
    obtain ⟨taken, rfl, again⟩ := ends octets token.1 token.2 result
    exact ⟨taken, rfl, fun _ => takes_take fun rest _ => again rest⟩

end Texts

section Numbers

theorem local_wholePart : Local Number.wholePart := by
  refine local_next.bind fun b => ?_
  cases b with
  | none => exact local_throw _
  | some b =>
    refine .ite ?_ (.ite ?_ (local_throw _))
    · refine local_peek.bind fun c => ?_
      cases c with
      | none => exact local_pure _
      | some c => exact (local_throw _).ite (local_pure _)
    · exact (local_takeWhile _).bind fun _ => local_pure _

theorem local_fractionPart : Local Number.fractionPart := by
  refine (local_takeWhile _).bind fun digits => .ite ?_ (local_pure _)
  refine local_peek.bind fun b => ?_
  cases b with
  | none => exact local_throw _
  | some b => exact local_throw _

theorem local_exponentPart (isZero : Bool) : Local (Number.exponentPart isZero) := by
  refine local_peek.bind fun sign => .maybe (local_next.bind fun b => ?_)
  cases b with
  | none => exact local_throw _
  | some b =>
    refine .ite ((local_takeWhile _).bind fun digits => ?_) (local_throw _)
    exact (local_throw _).ite (local_peek.bind fun _ => local_pure _)

theorem local_withExponent (negative : Bool) (s : Significand) (e : Exponent) :
    Local (Number.withExponent negative s e) := by
  unfold Number.withExponent
  cases e.size with
  | none => exact local_pure _
  | some size =>
    dsimp only
    generalize Significand.toFloat? _ = scaled
    cases scaled with
    | none => exact local_throw _
    | some x => exact local_pure _

theorem local_finishReal (negative : Bool) (s : Significand) :
    Local (Number.finishReal negative s) := by
  refine local_peek.bind fun b => .ite ?_ (local_withExponent _ _ _)
  refine local_skip.bind fun _ => ?_
  exact (local_exponentPart _).bind fun e => local_withExponent negative s e

theorem local_afterSign (negative : Bool) : Local (Number.afterSign negative) := by
  refine local_wholePart.bind fun digits => local_peek.bind fun b => .ite ?_ (.ite ?_ ?_)
  · refine local_skip.bind fun _ => ?_
    exact local_fractionPart.bind fun fraction => local_finishReal _ _
  · exact local_finishReal _ _
  · exact local_pure _

theorem local_numberScan : Local Number.scan := by
  refine local_peek.bind fun b => .ite ?_ (local_afterSign false)
  exact local_skip.bind fun _ => local_afterSign true

end Numbers

section Shapes

theorem local_literal (b : UInt8) : Local (literal b) :=
  .ite (local_exactly _) (.ite (local_exactly _) (local_exactly _))

theorem local_refuse (b : UInt8) : Local (refuse b : Scan α) := by
  refine .ite ?_ (.ite ?_ (.ite ?_ (.ite ?_ ?_)))
  · exact (local_literal b).bind fun _ => local_throw _
  · exact local_numberScan.bind fun _ => local_throw _
  · refine local_skip.bind fun _ => ?_
    exact (local_take selfEnding_readText).bind fun _ => local_throw _
  · exact local_throw _
  · exact local_throw _

theorem local_number : Local number :=
  local_needToken.bind fun b => local_numberScan.ite (local_refuse b)

theorem local_wholeBelow (limit : Nat) : Local (wholeBelow limit) := by
  refine local_number.bind fun n => ?_
  cases n with
  | whole n => exact (local_pure n).ite (local_throw _)
  | real x => exact local_throw _

theorem local_text : Local text := by
  refine local_needToken.bind fun b => .ite ?_ (local_refuse b)
  exact local_skip.bind fun _ => local_take selfEnding_readText

theorem local_optional {value : Scan α} (inside : Local value) : Local (Scan.optional value) := by
  refine local_token.bind fun b => .ite ?_ ?_
  · exact (local_literal _).bind fun _ => local_pure none
  · exact inside.bind fun a => local_pure (some a)

theorem local_null : Local null :=
  local_needToken.bind fun b => (local_literal b).ite (local_refuse b)

theorem local_hasItem (first : Bool) : Local (hasItem first) := by
  refine local_needToken.bind fun b => .ite (local_pure _) (.ite (local_pure _) (.ite ?_ ?_))
  · refine local_skip.bind fun _ => local_needToken.bind fun c => ?_
    exact (local_throw _).ite (local_pure _)
  · exact local_throw _

theorem local_item {value : Scan α} (first : Bool) (inside : Local value) :
    Local (item first value) :=
  (local_hasItem first).bind fun _ => inside.ite (local_throw _)

theorem local_endArray : Local endArray :=
  local_needToken.bind fun _ => local_skip.ite (local_throw _)

theorem local_hasMember (first : Bool) : Local (hasMember first) := by
  refine local_needToken.bind fun b => .ite (local_pure _) ?_
  have key (c : UInt8) : Local (if c = octet '"' then pure true else throw .malformed) :=
    (local_pure true).ite (local_throw _)
  refine .ite (key b) (.ite ?_ ?_)
  · exact local_skip.bind fun _ => local_needToken.bind key
  · exact (local_throw _).bind key

theorem local_colon : Local colon :=
  local_needToken.bind fun _ => local_skip.ite (local_throw _)

theorem local_once {value : Scan α} (known : Option α) (inside : Local value) :
    Local (once known value) := by
  have taken : Local (colon >>= fun _ => value >>= fun a => pure (some a)) :=
    local_colon.bind fun _ => inside.bind fun a => local_pure (some a)
  exact .ite ((local_throw _).bind fun _ => taken) taken

theorem local_required (known : Option α) : Local (required known) := by
  cases known with
  | none => exact local_throw _
  | some a => exact local_pure a

theorem local_structured {inOrder byName : Scan α} (array : Local inOrder) (object : Local byName) :
    Local (structured inOrder byName) := by
  refine local_needToken.bind fun b => .ite ?_ (.ite ?_ (local_refuse b))
  · refine local_skip.bind fun _ => array.bind fun a => ?_
    exact local_endArray.bind fun _ => local_pure a
  · refine local_skip.bind fun _ => object.bind fun a => ?_
    exact local_skip.bind fun _ => local_pure a

end Shapes

section Loops

def Refines (scan other : Scan α) : Prop :=
  ∀ source a left, scan.run source = .ok (a, left) → other.run source = .ok (a, left)

theorem refines_self (scan : Scan α) : Refines scan scan := fun _ _ _ run => run

theorem refines_throw (error : JsonError) (other : Scan α) : Refines (throw error) other := by
  intro source a left run
  cases run

theorem Refines.bind {other : Scan α} {next' : α → Scan β} (first : Refines scan other)
    (second : ∀ a, Refines (next a) (next' a)) : Refines (scan >>= next) (other >>= next') := by
  intro source b left run
  obtain ⟨a, middle, run, run'⟩ := run_bind_eq_ok.mp run
  exact run_bind_eq_ok.mpr ⟨a, middle, first source a middle run, second a middle b left run'⟩

theorem Refines.ite {condition : Prop} [Decidable condition] {scan' other other' : Scan α}
    (first : Refines scan other) (second : Refines scan' other') :
    Refines (if condition then scan else scan') (if condition then other else other') := by
  split
  · exact first
  · exact second

/-- A loop may be given as many steps as there are octets, for more steps do no harm. -/
theorem local_get {loop : Source → Scan α} (each : ∀ source, Local (loop source))
    (longer : ∀ source source' : Source, source.octets.length ≤ source'.octets.length →
      Refines (loop source) (loop source')) : Local (get >>= loop) := by
  intro source a left run
  obtain ⟨taken, rfl, takes⟩ := each source source a left run
  refine ⟨taken, rfl, fun more rest failure behind => ?_⟩
  refine longer ⟨taken ++ left.octets, left.failure⟩ ⟨taken ++ rest, failure⟩ ?_ _ _ _
    (takes more rest failure behind)
  have := behind.length_le
  simp only [List.length_append]
  omega

variable {value : Scan α} {member : String → σ → Scan σ}

theorem local_items (inside : Local value) (steps : Nat) (first : Bool) :
    Local (items value steps first) := by
  induction steps generalizing first with
  | zero => exact local_throw _
  | succ steps ih =>
    refine (local_hasItem first).bind fun more => .ite ?_ (local_pure [])
    exact inside.bind fun a => (ih false).bind fun rest => local_pure (a :: rest)

theorem refines_items (value : Scan α) {n m : Nat} (le : n ≤ m) (first : Bool) :
    Refines (items value n first) (items value m first) := by
  induction n generalizing m first with
  | zero => exact refines_throw _ _
  | succ n ih =>
    cases m with
    | zero => exact absurd le (Nat.not_succ_le_zero n)
    | succ m =>
      refine (refines_self _).bind fun more => .ite ?_ (refines_self _)
      refine (refines_self _).bind fun a => ?_
      exact (ih (Nat.le_of_succ_le_succ le) false).bind fun rest => refines_self _

theorem local_list (inside : Local value) : Local (list value) := by
  refine local_needToken.bind fun b => .ite ?_ (local_refuse b)
  refine local_skip.bind fun _ => local_get (fun source => ?_) fun source source' le => ?_
  · refine (local_items inside _ true).bind fun all => ?_
    exact local_endArray.bind fun _ => local_pure all
  · exact (refines_items value (Nat.succ_le_succ le) true).bind fun all => refines_self _

theorem local_members (inside : ∀ key state, Local (member key state)) (steps : Nat) (first : Bool)
    (state : σ) : Local (members member steps first state) := by
  induction steps generalizing first state with
  | zero => exact local_throw _
  | succ steps ih =>
    refine (local_hasMember first).bind fun more => .ite ?_ (local_pure state)
    exact local_text.bind fun key => (inside key state).bind fun state => ih false state

theorem refines_members (member : String → σ → Scan σ) {n m : Nat} (le : n ≤ m) (first : Bool)
    (state : σ) : Refines (members member n first state) (members member m first state) := by
  induction n generalizing m first state with
  | zero => exact refines_throw _ _
  | succ n ih =>
    cases m with
    | zero => exact absurd le (Nat.not_succ_le_zero n)
    | succ m =>
      refine (refines_self _).bind fun more => .ite ?_ (refines_self _)
      refine (refines_self _).bind fun key => (refines_self _).bind fun state => ?_
      exact ih (Nat.le_of_succ_le_succ le) false state

theorem local_fields (inside : ∀ key state, Local (member key state)) (state : σ) :
    Local (fields member state) :=
  local_get (fun _ => local_members inside _ true state)
    fun _ _ le => refines_members member (Nat.succ_le_succ le) true state

theorem ahead_of_hasMember {first : Bool} (run : (hasMember first).run source = .ok (false, left)) :
    Ahead (octet '}') left.octets := by
  obtain ⟨b, middle, run, run'⟩ := run_bind_eq_ok.mp run
  have key (c : UInt8) (source : Source) : (if c = octet '"' then pure true
      else throw .malformed : Scan Bool).run source ≠ .ok (false, left) := by
    intro run
    split at run <;> cases run
  split at run'
  · next last =>
    cases run'
    exact last ▸ ahead_of_needToken run
  split at run'
  · exact absurd run' (key b middle)
  split at run'
  · obtain ⟨_, after, -, run'⟩ := run_bind_eq_ok.mp run'
    obtain ⟨c, behind, -, run'⟩ := run_bind_eq_ok.mp run'
    exact absurd run' (key c behind)
  · cases run'

theorem ahead_of_members {steps : Nat} {first : Bool} {state result : σ}
    (run : (members member steps first state).run source = .ok (result, left)) :
    Ahead (octet '}') left.octets := by
  induction steps generalizing first state source with
  | zero => cases run
  | succ steps ih =>
    obtain ⟨more, middle, run, run'⟩ := run_bind_eq_ok.mp run
    cases more with
    | false =>
      cases run'
      exact ahead_of_hasMember run
    | true =>
      obtain ⟨key, after, -, run'⟩ := run_bind_eq_ok.mp run'
      obtain ⟨next, behind, -, run'⟩ := run_bind_eq_ok.mp run'
      exact ih run'

theorem ahead_of_fields {state result : σ}
    (run : (fields member state).run source = .ok (result, left)) : Ahead (octet '}') left.octets :=
  ahead_of_members run

end Loops

section Skipped

theorem local_someDigits : Local Skip.someDigits := by
  refine local_next.bind fun b => ?_
  cases b with
  | none => exact local_throw _
  | some b =>
    refine .ite ?_ (local_throw _)
    exact (local_takeWhile _).bind fun _ => local_pure ()

theorem local_exponent : Local Skip.exponent := by
  refine local_peek.bind fun b => .ite ?_ (local_pure ())
  refine local_skip.bind fun _ => local_peek.bind fun sign => ?_
  exact local_someDigits.maybe

theorem local_skipNumber : Local Skip.number := by
  have fraction : Local (do
      if (← Scan.peek) = some (octet '.') then
        Scan.skip
        Skip.someDigits
      Skip.exponent) := by
    refine local_peek.bind fun b => .ite ?_ local_exponent
    exact local_skip.bind fun _ => local_someDigits.bind fun _ => local_exponent
  refine local_peek.bind fun b => .ite ?_ (local_someDigits.bind fun _ => fraction)
  refine local_skip.bind fun _ => local_peek.bind fun c => ?_
  exact .ite ((local_throw _).bind fun _ => fraction) fraction

theorem local_toValue (frame : Skip.Frame) : Local (Skip.toValue frame) := by
  cases frame with
  | array => exact local_pure ()
  | object =>
    refine local_token.bind fun b => ?_
    cases b with
    | none => exact local_throw _
    | some b =>
      refine .ite (local_skip.bind fun _ => ?_) (local_throw _)
      refine (local_take selfEnding_skipText).bind fun _ => local_token.bind fun c => ?_
      cases c with
      | none => exact local_throw _
      | some c => exact local_skip.ite (local_throw _)

theorem local_scalar : Local Skip.scalar := by
  refine local_token.bind fun b => ?_
  cases b with
  | none => exact local_throw _
  | some b =>
    have word (octets : List UInt8) : Local (exactly octets >>= fun _ => pure none) :=
      (local_exactly octets).bind fun _ => local_pure (none : Option Skip.Frame)
    have number : Local (Skip.number >>= fun _ => pure none) :=
      local_skipNumber.bind fun _ => local_pure (none : Option Skip.Frame)
    refine .ite (word _) (.ite (word _) (.ite (word _) (.ite ?_ (.ite number ?_))))
    · exact local_skip.bind fun _ => number
    · refine .ite ?_ (.ite ?_ (.ite ?_ (local_throw _)))
      · refine local_skip.bind fun _ => ?_
        exact (local_take selfEnding_skipText).bind fun _ => local_pure none
      · exact local_skip.bind fun _ => local_pure _
      · exact local_skip.bind fun _ => local_pure _

theorem local_walk (steps : Nat) (place : Skip.Place) (frames : List Skip.Frame) :
    Local (Skip.walk steps place frames) := by
  induction steps generalizing place frames with
  | zero => exact local_throw _
  | succ steps ih =>
    cases place with
    | before =>
      refine local_scalar.bind fun frame => ?_
      cases frame with
      | none => exact ih .after frames
      | some frame => exact ih .opened (frame :: frames)
    | opened =>
      cases frames with
      | nil => exact local_pure ()
      | cons frame frames =>
        refine local_token.bind fun b => ?_
        cases b with
        | none => exact local_throw _
        | some b =>
          refine .ite ?_ ?_
          · exact local_skip.bind fun _ => ih .after frames
          · exact (local_toValue frame).bind fun _ => ih .before (frame :: frames)
    | after =>
      cases frames with
      | nil => exact local_pure ()
      | cons frame frames =>
        refine local_token.bind fun b => ?_
        cases b with
        | none => exact local_throw _
        | some b =>
          refine .ite ?_ (.ite ?_ (local_throw _))
          · exact local_skip.bind fun _ => ih .after frames
          · refine local_skip.bind fun _ => ?_
            exact (local_toValue frame).bind fun _ => ih .before (frame :: frames)

theorem refines_walk {n m : Nat} (le : n ≤ m) (place : Skip.Place) (frames : List Skip.Frame) :
    Refines (Skip.walk n place frames) (Skip.walk m place frames) := by
  induction n generalizing m place frames with
  | zero => exact refines_throw _ _
  | succ n ih =>
    obtain ⟨m, rfl⟩ : ∃ k, m = k + 1 := ⟨m - 1, by omega⟩
    have ih := fun place frames => ih (Nat.le_of_succ_le_succ le) place frames
    cases place with
    | before =>
      refine (refines_self _).bind fun frame => ?_
      cases frame with
      | none => exact ih .after frames
      | some frame => exact ih .opened (frame :: frames)
    | opened =>
      cases frames with
      | nil => exact refines_self _
      | cons frame frames =>
        refine (refines_self _).bind fun b => ?_
        cases b with
        | none => exact refines_throw _ _
        | some b =>
          refine .ite ?_ ?_
          · exact (refines_self _).bind fun _ => ih .after frames
          · exact (refines_self _).bind fun _ => ih .before (frame :: frames)
    | after =>
      cases frames with
      | nil => exact refines_self _
      | cons frame frames =>
        refine (refines_self _).bind fun b => ?_
        cases b with
        | none => exact refines_throw _ _
        | some b =>
          refine .ite ?_ (.ite ?_ (refines_throw _ _))
          · exact (refines_self _).bind fun _ => ih .after frames
          · refine (refines_self _).bind fun _ => ?_
            exact (refines_self _).bind fun _ => ih .before (frame :: frames)

theorem local_skipValue : Local Skip.value :=
  local_get (fun _ => local_walk _ .before []) fun _ _ le => refines_walk (by omega) .before []

end Skipped

end Scan

end AccessTrace.Json
