import AccessTrace.Json.Skip
import AccessTrace.Proofs.Json.Text

/-! Texts of a document tell their own end. Whatever stands behind the closing quote, the same
octets are taken, and no front of them is a text. -/

namespace AccessTrace.Json

variable {α β : Type} {read other : List UInt8 → Except TokenFault (α × List UInt8)}
  {next : α × List UInt8 → Except TokenFault (β × List UInt8)}

/-- A token that tells its own end: whatever stands behind it is left as it is. -/
def SelfEnding (read : List UInt8 → Except TokenFault (α × List UInt8)) : Prop :=
  ∀ octets a rest, read octets = .ok (a, rest) →
    ∃ taken, octets = taken ++ rest ∧ ∀ more, read (taken ++ more) = .ok (a, more)

theorem selfEnding_ok (a : α) : SelfEnding fun octets => .ok (a, octets) := by
  intro octets _ rest result
  cases result
  exact ⟨[], rfl, fun _ => rfl⟩

theorem selfEnding_error (fault : TokenFault) :
    SelfEnding fun _ => (.error fault : Except TokenFault (α × List UInt8)) := by
  intro octets a rest result
  cases result

theorem SelfEnding.bind (first : SelfEnding read)
    (second : ∀ a, SelfEnding fun octets => next (a, octets)) :
    SelfEnding fun octets => read octets >>= next := by
  intro octets b rest result
  cases known : read octets with
  | error fault =>
    simp only [known] at result
    cases result
  | ok token =>
    simp only [known] at result
    obtain ⟨taken, rfl, again⟩ := first octets token.1 token.2 known
    obtain ⟨taken', behind, again'⟩ := second token.1 token.2 b rest result
    refine ⟨taken ++ taken', by rw [behind, List.append_assoc], fun more => ?_⟩
    simp only [List.append_assoc, again]
    exact again' more

theorem SelfEnding.ite {condition : Prop} [Decidable condition] (first : SelfEnding read)
    (second : SelfEnding other) :
    SelfEnding fun octets => if condition then read octets else other octets := by
  split
  · exact first
  · exact second

theorem SelfEnding.expect (ends : SelfEnding read) (c : UInt8) :
    SelfEnding fun octets => expect c octets >>= read := by
  rintro (_ | ⟨b, behind⟩) a rest result
  · cases result
  · by_cases same : b = c
    · subst same
      have expected (more : List UInt8) : Json.expect b (b :: more) = .ok more := if_pos rfl
      simp only [expected] at result
      obtain ⟨taken, rfl, again⟩ := ends behind a rest result
      refine ⟨b :: taken, rfl, fun more => ?_⟩
      simp only [List.cons_append, expected]
      exact again more
    · have refused : Json.expect c (b :: behind) = .error .malformed := if_neg same
      simp only [refused] at result
      cases result

theorem selfEnding_hexQuad : SelfEnding hexQuad := by
  intro octets n rest result
  unfold hexQuad at result
  split at result
  · next d₁ d₂ d₃ d₄ behind =>
    split at result
    · next v₁ v₂ v₃ v₄ =>
      cases result
      refine ⟨[d₁, d₂, d₃, d₄], rfl, fun more => ?_⟩
      simp only [List.cons_append, List.nil_append, hexQuad, v₁, v₂, v₃, v₄]
    · cases result
  · cases result

theorem selfEnding_unicodeEscape : SelfEnding unicodeEscape := by
  unfold unicodeEscape
  refine selfEnding_hexQuad.bind fun first => ?_
  refine (selfEnding_error _).ite (.ite ?_ (selfEnding_ok _))
  refine .expect (.expect ?_ _) _
  refine selfEnding_hexQuad.bind fun second => ?_
  exact (selfEnding_ok _).ite (selfEnding_error _)

theorem selfEnding_unescape : SelfEnding unescape := by
  rintro (_ | ⟨b, behind⟩) out rest result
  · cases result
  · by_cases unit : b = octet 'u'
    · subst unit
      have escape : SelfEnding fun octets => unicodeEscape octets >>= fun code =>
          (.ok (String.utf8EncodeChar (Char.ofNat code.1), code.2) : Except TokenFault _) :=
        selfEnding_unicodeEscape.bind fun code =>
          selfEnding_ok (String.utf8EncodeChar (Char.ofNat code))
      obtain ⟨taken, rfl, again⟩ := escape behind out rest result
      exact ⟨octet 'u' :: taken, rfl, again⟩
    · simp only [unescape, if_neg unit] at result
      cases letter : letterEscape? b with
      | none => simp [letter] at result
      | some c =>
        rw [letter] at result
        cases result
        refine ⟨[b], rfl, fun more => ?_⟩
        simp only [List.cons_append, List.nil_append, unescape, if_neg unit, letter]

theorem textOctets_eq_ok_cases {octets out rest : List UInt8}
    (result : textOctets octets = .ok (out, rest)) :
    octets = octet '"' :: rest ∧ out = [] ∨
      ∃ front behind character more, octets = front ++ behind ∧ behind.length < octets.length ∧
        out = character ++ more ∧ textOctets behind = .ok (more, rest) ∧
        ∀ after more rest, textOctets after = .ok (more, rest) →
          textOctets (front ++ after) = .ok (character ++ more, rest) := by
  cases octets with
  | nil => simp [textOctets] at result
  | cons b behind =>
    by_cases quote : b = octet '"'
    · subst quote
      rw [textOctets_quote] at result
      cases result
      exact .inl ⟨rfl, rfl⟩
    by_cases slash : b = octet '\\'
    · subst slash
      rw [textOctets, if_neg quote, if_pos rfl] at result
      split at result
      · cases result
      · next character after escape =>
        split at result
        · cases result
        · next more left found =>
          cases result
          obtain ⟨taken, rfl, again⟩ := selfEnding_unescape behind character after escape
          refine .inr ⟨octet '\\' :: taken, after, character, more, rfl, ?_, rfl, found, ?_⟩
          · simp only [List.length_cons, List.length_append]
            omega
          · intro after more rest found
            exact textOctets_escape (again after) found
    rw [textOctets, if_neg quote, if_neg slash] at result
    split at result
    · cases result
    · next solid =>
      split at result
      · cases result
      · next more left found =>
        cases result
        have plain : ¬ IsSpecial b := by simp [IsSpecial, quote, slash, solid]
        refine .inr ⟨[b], behind, [b], more, rfl, Nat.lt_succ_self _, rfl, found, ?_⟩
        intro after more rest found
        exact textOctets_plain plain found

theorem selfEnding_textOctets : SelfEnding textOctets := by
  intro octets
  induction size : octets.length using Nat.strong_induction_on generalizing octets with
  | h n ih =>
    intro out rest result
    obtain ⟨rfl, rfl⟩ | ⟨front, behind, character, more, rfl, shorter, rfl, found, again⟩ :=
      textOctets_eq_ok_cases result
    · exact ⟨[octet '"'], rfl, textOctets_quote⟩
    · obtain ⟨taken, rfl, again'⟩ := ih behind.length (size ▸ shorter) behind rfl more rest found
      refine ⟨front ++ taken, (List.append_assoc ..).symm, fun after => ?_⟩
      rw [List.append_assoc]
      exact again _ _ _ (again' after)

theorem selfEnding_readText : SelfEnding readText := by
  unfold readText
  refine selfEnding_textOctets.bind fun octets => ?_
  cases known : AccessTrace.Text.ofUtf8? octets with
  | none =>
    simp only [known]
    exact selfEnding_error _
  | some text =>
    simp only [known]
    exact selfEnding_ok text

theorem skipText_quote (rest : List UInt8) : Skip.text (octet '"' :: rest) = .ok ((), rest) := by
  rw [Skip.text.eq_def]
  exact if_pos rfl

theorem skipText_eq_ok_cases {octets rest : List UInt8}
    (result : Skip.text octets = .ok ((), rest)) :
    octets = octet '"' :: rest ∨
      ∃ front behind, octets = front ++ behind ∧ behind.length < octets.length ∧
        ∀ after, Skip.text (front ++ after) = Skip.text after := by
  unfold Skip.text at result
  split at result
  · cases result
  next b behind =>
  split at result
  · next quote =>
    cases result
    exact .inl (quote ▸ rfl)
  next quote =>
  split at result
  · next slash =>
    subst slash
    split at result
    · cases result
    next c behind =>
    split at result
    · next unit =>
      subst unit
      split at result
      · next d₁ d₂ d₃ d₄ behind =>
        split at result
        · next digits =>
          refine .inr ⟨[octet '\\', octet 'u', d₁, d₂, d₃, d₄], behind, rfl, ?_,
            fun after => if_pos digits⟩
          simp only [List.length_cons]
          omega
        · cases result
      · cases result
    next unit =>
    split at result
    · next letter =>
      refine .inr ⟨[octet '\\', c], behind, rfl, ?_, fun after => ?_⟩
      · simp only [List.length_cons]
        omega
      have solid : octet '\\' ≠ octet '"' := by decide
      rw [List.cons_append, List.cons_append, List.nil_append, Skip.text.eq_def]
      exact (if_neg solid).trans ((if_pos rfl).trans ((if_neg unit).trans (if_pos letter)))
    · cases result
  next slash =>
  split at result
  · cases result
  · next solid =>
    refine .inr ⟨[b], behind, rfl, by simp, fun after => ?_⟩
    rw [List.cons_append, List.nil_append, Skip.text.eq_def]
    exact (if_neg quote).trans ((if_neg slash).trans (if_neg solid))

theorem selfEnding_skipText : SelfEnding Skip.text := by
  intro octets
  induction size : octets.length using Nat.strong_induction_on generalizing octets with
  | h n ih =>
    rintro ⟨⟩ rest result
    obtain rfl | ⟨front, behind, rfl, shorter, again⟩ := skipText_eq_ok_cases result
    · exact ⟨[octet '"'], rfl, skipText_quote⟩
    · rw [again] at result
      obtain ⟨taken, rfl, again'⟩ := ih behind.length (size ▸ shorter) behind rfl () rest result
      refine ⟨front ++ taken, (List.append_assoc ..).symm, fun after => ?_⟩
      rw [List.append_assoc, again, again']

end AccessTrace.Json
