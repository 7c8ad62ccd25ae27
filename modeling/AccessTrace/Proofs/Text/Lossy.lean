import AccessTrace.Proofs.Text.Utf8

/-! Text in octets that may be broken. Where no character stands, the longest part that begins one
is replaced, or a single octet if it begins none. -/

namespace AccessTrace.Text

open String (utf8EncodeChar)

/-- The octets are those that a character is written with, or the first of them. -/
def BeginsChar (octets : List UInt8) : Prop :=
  ∃ c : Char, octets <+: utf8EncodeChar c

/-- The part stands where no character does, in front of the rest. It begins a character and would
not if it were longer, or it is a single octet that begins none. -/
structure IsBroken (part rest : List UInt8) : Prop where
  unreadable : ∀ c : Char, ¬ utf8EncodeChar c <+: part ++ rest
  maximal : (part ≠ [] ∧ BeginsChar part ∧ ∀ next ∈ rest.head?, ¬ BeginsChar (part ++ [next])) ∨
    ∃ octet, part = [octet] ∧ ¬ BeginsChar [octet]

/-- The text that octets stand for, with one replacement character for each broken part. -/
inductive Decodes : List UInt8 → List Char → Prop where
  | nil : Decodes [] []
  | char (c : Char) {rest : List UInt8} {text : List Char} (later : Decodes rest text) :
      Decodes (utf8EncodeChar c ++ rest) (c :: text)
  | broken {part rest : List UInt8} {text : List Char} (here : IsBroken part rest)
      (later : Decodes rest text) : Decodes (part ++ rest) (replacement :: text)

variable {octets part rest : List UInt8}

theorem BeginsChar.of_front (begins : BeginsChar octets) (front : part <+: octets) :
    BeginsChar part :=
  begins.imp fun _ whole => front.trans whole

theorem IsBroken.ne_nil (broken : IsBroken part rest) : part ≠ [] := by
  rcases broken.maximal with ⟨some, -⟩ | ⟨octet, rfl, -⟩
  · exact some
  · exact List.cons_ne_nil octet []

theorem IsBroken.not_beginsChar (broken : IsBroken part rest) {next : UInt8}
    (more : next ∈ rest.head?) : ¬ BeginsChar (part ++ [next]) := by
  rcases broken.maximal with ⟨-, -, longest⟩ | ⟨octet, rfl, none⟩
  · exact longest next more
  · exact fun begins => none (begins.of_front (List.prefix_append _ _))

theorem encode_inj {c d : Char} {after : List UInt8}
    (same : utf8EncodeChar c ++ rest = utf8EncodeChar d ++ after) : c = d ∧ rest = after := by
  have read (c : Char) (rest : List UInt8) :
      (utf8EncodeChar c ++ rest).toByteArray.utf8DecodeChar? 0 = some c := by
    rw [List.toByteArray_append]
    exact ByteArray.utf8DecodeChar?_utf8EncodeChar_append
  have char : c = d := by
    have first := read c rest
    rw [same, read d after] at first
    exact (Option.some.inj first).symm
  subst char
  exact ⟨rfl, List.append_cancel_left same⟩

theorem IsBroken.eq_nil {more after : List UInt8} (broken : IsBroken part (more ++ after))
    (longer : IsBroken (part ++ more) after) : more = [] := by
  cases more with
  | nil => rfl
  | cons next more =>
    rcases longer.maximal with ⟨-, begins, -⟩ | ⟨octet, single, -⟩
    · refine absurd (begins.of_front ?_) (broken.not_beginsChar (Option.mem_some_self next))
      exact ⟨more, by simp⟩
    · obtain ⟨empty, -⟩ | ⟨-, nothing⟩ := List.append_eq_singleton_iff.mp single
      · exact absurd empty broken.ne_nil
      · cases nothing

theorem IsBroken.unique {other after : List UInt8} (broken : IsBroken part rest)
    (broken' : IsBroken other after) (same : part ++ rest = other ++ after) :
    part = other ∧ rest = after := by
  obtain ⟨more, rfl, rfl⟩ | ⟨more, rfl, rfl⟩ := List.append_eq_append_iff.mp same
  · cases broken.eq_nil broken'
    exact ⟨(List.append_nil _).symm, rfl⟩
  · cases broken'.eq_nil broken
    exact ⟨List.append_nil _, rfl⟩

theorem Decodes.unique {text other : List Char} (decodes : Decodes octets text)
    (decodes' : Decodes octets other) : text = other := by
  induction decodes generalizing other with
  | nil =>
    generalize nothing : ([] : List UInt8) = octets at decodes'
    cases decodes' with
    | nil => rfl
    | char c => exact absurd (List.append_eq_nil_iff.mp nothing.symm).1 String.utf8EncodeChar_ne_nil
    | broken here => exact absurd (List.append_eq_nil_iff.mp nothing.symm).1 here.ne_nil
  | @char c rest text later ih =>
    generalize same : utf8EncodeChar c ++ rest = octets at decodes'
    cases decodes' with
    | nil => exact absurd (List.append_eq_nil_iff.mp same).1 String.utf8EncodeChar_ne_nil
    | char d later' =>
      obtain ⟨rfl, rfl⟩ := encode_inj same
      rw [ih later']
    | broken here => exact absurd ⟨rest, same⟩ (here.unreadable c)
  | @broken part rest text here later ih =>
    generalize same : part ++ rest = octets at decodes'
    cases decodes' with
    | nil => exact absurd (List.append_eq_nil_iff.mp same).1 here.ne_nil
    | @char d after _ later' => exact absurd ⟨after, same.symm⟩ (here.unreadable d)
    | broken here' later' =>
      obtain ⟨rfl, rfl⟩ := here.unique here' same
      rw [ih later']

namespace Lead

/-- The octets may follow a lead, the first of them in the given range. -/
def Allows (low high : UInt8) : List UInt8 → Prop
  | [] => True
  | octet :: rest => (low ≤ octet ∧ octet ≤ high) ∧ Allows 0x80 0xBF rest

def spelled (payload : Nat) (octets : List UInt8) : Nat :=
  octets.foldl (fun number octet => number * 0x40 + (octet.toNat - 0x80)) payload

variable {lead : Lead} {low high octet : UInt8} {body : List UInt8}

theorem Allows.of_front (allows : Allows low high octets) (front : body <+: octets) :
    Allows low high body := by
  induction body generalizing low high octets with
  | nil => trivial
  | cons octet body ih =>
    obtain ⟨more, rfl⟩ := front
    exact ⟨allows.1, ih allows.2 (List.prefix_append _ _)⟩

theorem finish_spec (payload : Nat) (low high : UInt8) (following : Nat) (octets : List UInt8) :
    ∃ body rest, octets = body ++ rest ∧ Allows low high body ∧
      ((body.length = following ∧
          finish payload low high following octets = (some (spelled payload body), rest)) ∨
        (body.length < following ∧ finish payload low high following octets = (none, rest) ∧
          ∀ next ∈ rest.head?, ¬ Allows low high (body ++ [next]))) := by
  induction octets generalizing payload low high following with
  | nil =>
    refine ⟨[], [], rfl, trivial, ?_⟩
    cases following with
    | zero => exact .inl ⟨rfl, rfl⟩
    | succ following => exact .inr ⟨Nat.succ_pos _, rfl, fun next none => by cases none⟩
  | cons octet octets ih =>
    cases following with
    | zero => exact ⟨[], octet :: octets, rfl, trivial, .inl ⟨rfl, rfl⟩⟩
    | succ following =>
      by_cases inside : low ≤ octet ∧ octet ≤ high
      · obtain ⟨body, rest, cut, allows, ends⟩ :=
          ih (payload * 0x40 + (octet.toNat - 0x80)) 0x80 0xBF following
        refine ⟨octet :: body, rest, congrArg (octet :: ·) cut, ⟨inside, allows⟩, ?_⟩
        rw [finish, if_pos inside, spelled, List.foldl_cons]
        rcases ends with ⟨full, found⟩ | ⟨short, stopped, barred⟩
        · exact .inl ⟨congrArg (· + 1) full, found⟩
        · exact .inr ⟨Nat.succ_lt_succ short, stopped, fun next first more =>
            barred next first more.2⟩
      · refine ⟨[], octet :: octets, rfl, trivial, .inr ⟨Nat.succ_pos _, ?_, ?_⟩⟩
        · rw [finish, if_neg inside]
        · intro next first more
          cases first
          exact inside more.1

/-- Octets that may follow a lead can be made as many as it announces. -/
theorem Allows.exists_whole (allows : Allows low high body) (range : low ≤ high) {following : Nat}
    (short : body.length ≤ following) :
    ∃ more, Allows low high (body ++ more) ∧ (body ++ more).length = following := by
  induction following generalizing low high body with
  | zero =>
    cases List.length_eq_zero_iff.mp (Nat.le_zero.mp short)
    exact ⟨[], trivial, rfl⟩
  | succ following ih =>
    cases body with
    | nil =>
      obtain ⟨more, allowed, length⟩ :=
        @ih 0x80 0xBF [] trivial (by decide) (Nat.zero_le _)
      exact ⟨low :: more, ⟨⟨UInt8.le_refl low, range⟩, allowed⟩, congrArg (· + 1) length⟩
    | cons octet body =>
      obtain ⟨more, allowed, length⟩ := ih allows.2 (by decide) (Nat.le_of_succ_le_succ short)
      exact ⟨more, ⟨allows.1, allowed⟩, congrArg (· + 1) length⟩

/-- What a lead announces: the characters of two, three and four octets, without those that fewer
octets spell, the surrogates and the numbers past the last code point. -/
def Fits (octet : Nat) (lead : Lead) : Prop :=
  let range (low high : Nat) := lead.low.toNat = low ∧ lead.high.toNat = high
  (lead.following = 1 ∧ octet = 0xC0 + lead.payload ∧
      2 ≤ lead.payload ∧ lead.payload < 0x20 ∧ range 0x80 0xBF) ∨
    (lead.following = 2 ∧ octet = 0xE0 + lead.payload ∧
      (lead.payload = 0 ∧ range 0xA0 0xBF ∨ lead.payload = 0xD ∧ range 0x80 0x9F ∨
        lead.payload ≠ 0 ∧ lead.payload ≠ 0xD ∧ lead.payload < 0x10 ∧ range 0x80 0xBF)) ∨
    (lead.following = 3 ∧ octet = 0xF0 + lead.payload ∧
      (lead.payload = 0 ∧ range 0x90 0xBF ∨ lead.payload = 4 ∧ range 0x80 0x8F ∨
        lead.payload ≠ 0 ∧ lead.payload < 4 ∧ range 0x80 0xBF))

instance (octet : Nat) (lead : Lead) : Decidable (Fits octet lead) := by
  unfold Fits
  infer_instance

theorem fits_of_lt : ∀ n < 256, ∀ lead ∈ Lead.of? (UInt8.ofNat n), Fits n lead := by
  decide +kernel

theorem isSome_of_lt : ∀ n < 0xF5, 0xC2 ≤ n → (Lead.of? (UInt8.ofNat n)).isSome := by
  decide +kernel

theorem fits (known : Lead.of? octet = some lead) : Fits octet.toNat lead := by
  refine fits_of_lt octet.toNat octet.toNat_lt lead ?_
  rw [UInt8.ofNat_toNat, known]
  rfl

theorem exists_fits (low : 0xC2 ≤ octet.toNat) (high : octet.toNat < 0xF5) :
    ∃ lead, Lead.of? octet = some lead ∧ Fits octet.toNat lead := by
  have found := isSome_of_lt octet.toNat high low
  rw [UInt8.ofNat_toNat] at found
  obtain ⟨lead, known⟩ := Option.isSome_iff_exists.mp found
  exact ⟨lead, known, fits known⟩

end Lead

variable {lead : Lead} {octet : UInt8} {body : List UInt8}

theorem encode_spelled (known : Lead.of? octet = some lead)
    (allows : Lead.Allows lead.low lead.high body) (whole : body.length = lead.following) :
    utf8EncodeChar (Char.ofNat (Lead.spelled lead.payload body)) = octet :: body := by
  have fits := Lead.fits known
  unfold Lead.Fits at fits
  refine List.map_inj_right (fun _ _ => UInt8.toNat_inj.mp) |>.mp ?_
  -- The number is that of a character, and its octets are those that spell it.
  match body, whole, allows with
  | [], whole, _ => simp only [List.length_nil] at whole; omega
  | [a], whole, allows =>
    simp only [Lead.Allows, UInt8.le_iff_toNat_le, and_true] at allows
    simp only [Lead.spelled, List.foldl_cons, List.foldl_nil, List.map_cons, List.map_nil,
      List.length_cons, List.length_nil] at whole ⊢
    have valid : (lead.payload * 0x40 + (a.toNat - 0x80)).isValidChar := by
      unfold Nat.isValidChar
      omega
    rw [map_toNat_encode, toNat_ofNat valid, if_neg (by omega), if_pos (by omega)]
    simp only [List.cons.injEq, and_true]
    omega
  | [a, b], whole, allows =>
    simp only [Lead.Allows, UInt8.le_iff_toNat_le, UInt8.reduceToNat, and_true] at allows
    simp only [Lead.spelled, List.foldl_cons, List.foldl_nil, List.map_cons, List.map_nil,
      List.length_cons, List.length_nil] at whole ⊢
    have valid :
        ((lead.payload * 0x40 + (a.toNat - 0x80)) * 0x40 + (b.toNat - 0x80)).isValidChar := by
      unfold Nat.isValidChar
      omega
    rw [map_toNat_encode, toNat_ofNat valid, if_neg (by omega), if_neg (by omega),
      if_pos (by omega)]
    simp only [List.cons.injEq, and_true]
    omega
  | [a, b, c], whole, allows =>
    simp only [Lead.Allows, UInt8.le_iff_toNat_le, UInt8.reduceToNat, and_true] at allows
    simp only [Lead.spelled, List.foldl_cons, List.foldl_nil, List.map_cons, List.map_nil,
      List.length_cons, List.length_nil] at whole ⊢
    have valid : (((lead.payload * 0x40 + (a.toNat - 0x80)) * 0x40 + (b.toNat - 0x80)) * 0x40 +
        (c.toNat - 0x80)).isValidChar := by
      unfold Nat.isValidChar
      omega
    rw [map_toNat_encode, toNat_ofNat valid, if_neg (by omega), if_neg (by omega),
      if_neg (by omega)]
    simp only [List.cons.injEq, and_true]
    omega
  | _ :: _ :: _ :: _ :: _, whole, _ => simp only [List.length_cons] at whole; omega

theorem encode_cases {c : Char} (written : utf8EncodeChar c = octet :: body) :
    (octet < 0x80 ∧ body = []) ∨ ∃ lead, Lead.of? octet = some lead ∧
      Lead.Allows lead.low lead.high body ∧ body.length = lead.following := by
  have valid : c.toNat.isValidChar := c.valid
  unfold Nat.isValidChar at valid
  have numbers := map_toNat_encode c
  rw [written, List.map_cons] at numbers
  by_cases one : c.toNat < 0x80
  · rw [if_pos one] at numbers
    obtain ⟨first, none⟩ := List.cons.inj numbers
    exact .inl ⟨UInt8.lt_iff_toNat_lt.mpr (first ▸ one), List.map_eq_nil_iff.mp none⟩
  have follows (low : 0xC2 ≤ octet.toNat) (high : octet.toNat < 0xF5)
      (fit : ∀ lead : Lead, lead.Fits octet.toNat →
        Lead.Allows lead.low lead.high body ∧ body.length = lead.following) :
      ∃ lead, Lead.of? octet = some lead ∧
        Lead.Allows lead.low lead.high body ∧ body.length = lead.following := by
    obtain ⟨lead, known, fits⟩ := Lead.exists_fits low high
    exact ⟨lead, known, fit lead fits⟩
  right
  rw [if_neg one] at numbers
  by_cases two : c.toNat < 0x800
  · rw [if_pos two] at numbers
    obtain ⟨first, tail⟩ := List.cons.inj numbers
    obtain ⟨a, _, rfl, second, none⟩ := List.map_eq_cons_iff.mp tail
    cases List.map_eq_nil_iff.mp none
    refine follows (by omega) (by omega) fun lead fits => ?_
    unfold Lead.Fits at fits
    simp only [Lead.Allows, UInt8.le_iff_toNat_le, and_true, List.length_cons, List.length_nil]
    omega
  rw [if_neg two] at numbers
  by_cases three : c.toNat < 0x10000
  · rw [if_pos three] at numbers
    obtain ⟨first, tail⟩ := List.cons.inj numbers
    obtain ⟨a, _, rfl, second, tail⟩ := List.map_eq_cons_iff.mp tail
    obtain ⟨b, _, rfl, third, none⟩ := List.map_eq_cons_iff.mp tail
    cases List.map_eq_nil_iff.mp none
    refine follows (by omega) (by omega) fun lead fits => ?_
    unfold Lead.Fits at fits
    simp only [Lead.Allows, UInt8.le_iff_toNat_le, UInt8.reduceToNat, and_true, List.length_cons,
      List.length_nil]
    omega
  · rw [if_neg three] at numbers
    obtain ⟨first, tail⟩ := List.cons.inj numbers
    obtain ⟨a, _, rfl, second, tail⟩ := List.map_eq_cons_iff.mp tail
    obtain ⟨b, _, rfl, third, tail⟩ := List.map_eq_cons_iff.mp tail
    obtain ⟨d, _, rfl, fourth, none⟩ := List.map_eq_cons_iff.mp tail
    cases List.map_eq_nil_iff.mp none
    refine follows (by omega) (by omega) fun lead fits => ?_
    unfold Lead.Fits at fits
    simp only [Lead.Allows, UInt8.le_iff_toNat_le, UInt8.reduceToNat, and_true, List.length_cons,
      List.length_nil]
    omega

theorem beginsChar_of_allows (known : Lead.of? octet = some lead)
    (allows : Lead.Allows lead.low lead.high body) (short : body.length ≤ lead.following) :
    BeginsChar (octet :: body) := by
  have range : lead.low ≤ lead.high := by
    have fits := Lead.fits known
    unfold Lead.Fits at fits
    rw [UInt8.le_iff_toNat_le]
    omega
  obtain ⟨more, allows, whole⟩ := allows.exists_whole range short
  refine ⟨Char.ofNat (Lead.spelled lead.payload (body ++ more)), more, ?_⟩
  rw [encode_spelled known allows whole, List.cons_append]

theorem allows_of_front {c : Char} (known : Lead.of? octet = some lead)
    (front : octet :: body <+: utf8EncodeChar c) :
    ∃ more, utf8EncodeChar c = octet :: (body ++ more) ∧
      Lead.Allows lead.low lead.high (body ++ more) ∧
      (body ++ more).length = lead.following := by
  obtain ⟨more, whole⟩ := front
  refine ⟨more, whole.symm, ?_⟩
  rcases encode_cases whole.symm with ⟨ascii, -⟩ | ⟨other, known', follows⟩
  · have fits := Lead.fits known
    unfold Lead.Fits at fits
    have small : octet.toNat < 0x80 := ascii
    omega
  · cases known.symm.trans known'
    exact follows

theorem front_of_encode {c : Char} (front : utf8EncodeChar c <+: octet :: rest) :
    [octet] <+: utf8EncodeChar c := by
  obtain ⟨first, more, written⟩ := List.exists_cons_of_ne_nil (@String.utf8EncodeChar_ne_nil c)
  rw [written] at front ⊢
  obtain ⟨rfl, -⟩ := List.cons_prefix_cons.mp front
  exact ⟨more, rfl⟩

theorem isBroken_of_stop (known : Lead.of? octet = some lead)
    (allows : Lead.Allows lead.low lead.high body) (short : body.length < lead.following)
    (barred : ∀ next ∈ rest.head?, ¬ Lead.Allows lead.low lead.high (body ++ [next])) :
    IsBroken (octet :: body) rest := by
  have stops {c : Char} {next : UInt8} (first : next ∈ rest.head?) :
      ¬ octet :: (body ++ [next]) <+: utf8EncodeChar c := by
    intro front
    obtain ⟨more, -, allows, -⟩ := allows_of_front known front
    exact barred next first (allows.of_front (List.prefix_append _ _))
  refine ⟨fun c front => ?_, .inl ⟨List.cons_ne_nil octet body, ?_, ?_⟩⟩
  · -- The character would go on behind the part, with what the lead does not allow.
    obtain ⟨tail, written, -, whole⟩ := allows_of_front known (front_of_encode front)
    rw [List.nil_append] at written whole
    rw [written] at front
    have inside := (List.cons_prefix_cons.mp front).2
    obtain ⟨more, rfl⟩ := List.prefix_of_prefix_length_le (List.prefix_append body rest) inside
      (whole ▸ Nat.le_of_lt short)
    cases more with
    | nil =>
      rw [List.append_nil] at whole
      exact absurd whole (Nat.ne_of_lt short)
    | cons next more =>
      obtain ⟨after, rfl⟩ := (List.prefix_append_right_inj body).mp inside
      have front : octet :: (body ++ [next]) <+: utf8EncodeChar c := by
        rw [written]
        exact ⟨more, by simp⟩
      exact stops (Option.mem_some_self next) front
  · exact beginsChar_of_allows known allows (Nat.le_of_lt short)
  · rintro next first ⟨c, front⟩
    exact stops first front

theorem firstChar_spec (octet : UInt8) (rest : List UInt8) :
    (∃ c after, firstChar octet rest = (c, after) ∧ octet :: rest = utf8EncodeChar c ++ after) ∨
      ∃ part after, firstChar octet rest = (replacement, after) ∧ octet :: rest = part ++ after ∧
        IsBroken part after := by
  by_cases ascii : octet < 0x80
  · refine .inl ⟨Char.ofNat octet.toNat, rest, if_pos ascii, ?_⟩
    rw [encode_of_ascii ascii, List.singleton_append]
  unfold firstChar
  rw [if_neg ascii]
  cases known : Lead.of? octet with
  | none =>
    have begins_none : ¬ BeginsChar [octet] := by
      rintro ⟨c, more, whole⟩
      rcases encode_cases whole.symm with ⟨ascii', -⟩ | ⟨lead, known', -⟩
      · exact ascii ascii'
      · cases known.symm.trans known'
    refine .inr ⟨[octet], rest, rfl, rfl, fun c front => ?_, .inr ⟨octet, rfl, begins_none⟩⟩
    exact begins_none ⟨c, front_of_encode front⟩
  | some lead =>
    obtain ⟨body, after, rfl, allows, ⟨whole, found⟩ | ⟨short, stopped, barred⟩⟩ :=
      Lead.finish_spec lead.payload lead.low lead.high lead.following rest
    · refine .inl ⟨Char.ofNat (Lead.spelled lead.payload body), after, ?_, ?_⟩
      · simp only [found]
      · rw [encode_spelled known allows whole, List.cons_append]
    · refine .inr ⟨octet :: body, after, ?_, rfl, isBroken_of_stop known allows short barred⟩
      simp only [stopped]

theorem decodes_decodeLossy (octets : List UInt8) : Decodes octets (decodeLossy octets) := by
  induction octets using decodeLossy.induct with
  | case1 =>
    rw [decodeLossy]
    exact .nil
  | case2 octet rest ih =>
    rw [decodeLossy]
    rcases firstChar_spec octet rest with ⟨c, after, first, cut⟩ | ⟨part, after, first, cut, broken⟩
    · rw [first] at ih ⊢
      rw [cut]
      exact .char c ih
    · rw [first] at ih ⊢
      rw [cut]
      exact .broken broken ih

theorem decodeLossy_eq_iff {octets : List UInt8} {text : List Char} :
    decodeLossy octets = text ↔ Decodes octets text := by
  constructor
  · rintro rfl
    exact decodes_decodeLossy octets
  · exact (decodes_decodeLossy octets).unique

theorem decodes_flatMap (text : List Char) : Decodes (text.flatMap utf8EncodeChar) text := by
  induction text with
  | nil => exact .nil
  | cons c rest ih =>
    rw [List.flatMap_cons]
    exact .char c ih

theorem ofUtf8Lossy_utf8 (text : String) : ofUtf8Lossy (utf8 text) = text := by
  rw [ofUtf8Lossy, utf8_eq_flatMap, decodeLossy_eq_iff.mpr (decodes_flatMap _)]
  exact String.ofList_toList

end AccessTrace.Text
