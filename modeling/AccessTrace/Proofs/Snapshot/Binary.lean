import AccessTrace.Proofs.Text.Utf8
import AccessTrace.Snapshot.Binary

namespace AccessTrace

def AccessKind.Addressable : AccessKind → Prop
  | .other name => (Text.utf8 name).length < UInt64.size
  | _ => True

/-- What every snapshot in memory is like: a word counts its accesses, and the octets of each text
in it. -/
structure Snapshot.Addressable (snapshot : Snapshot) : Prop where
  count : snapshot.accesses.length < UInt64.size
  kinds : ∀ a ∈ snapshot.accesses, a.kind.Addressable

namespace Binary

theorem length_littleEndian (width n : Nat) : (littleEndian width n).length = width := by
  induction width generalizing n with
  | zero => rfl
  | succ width ih => simp [littleEndian, ih]

theorem fromLittleEndian_littleEndian {width n : Nat} (small : n < Nat.pow 256 width) :
    Read.fromLittleEndian (littleEndian width n) = n := by
  induction width generalizing n with
  | zero => exact (Nat.lt_one_iff.mp small).symm
  | succ width ih =>
    have rest : n / 256 < Nat.pow 256 width :=
      Nat.div_lt_of_lt_mul (Nat.mul_comm .. ▸ small)
    rw [littleEndian, Read.fromLittleEndian, ih rest, UInt8.toNat_ofNat']
    exact Nat.mod_add_div n 256

namespace Read

def Takes {α : Type} (read : Read α) (octets : List UInt8) (a : α) : Prop :=
  ∀ rest, read.run (octets ++ rest) = .ok (a, rest)

variable {α β : Type} {read : Read α} {next : α → Read β} {octets more : List UInt8} {a : α} {b : β}

theorem takes_pure (a : α) : Takes (pure a) [] a := fun _ => rfl

theorem Takes.bind (first : read.Takes octets a) (second : (next a).Takes more b) :
    (read >>= next).Takes (octets ++ more) b := by
  intro rest
  rw [List.append_assoc, StateT.run_bind, first]
  exact second rest

theorem Takes.bind_nil (first : read.Takes octets a) (second : (next a).Takes [] b) :
    (read >>= next).Takes octets b := by
  have h := first.bind second
  rwa [List.append_nil] at h

theorem takes_octet (b : UInt8) : octet.Takes [b] b := fun _ => rfl

theorem takes_octets (all : List UInt8) : (Read.octets all.length).Takes all all := by
  intro rest
  have there : all.length ≤ (all ++ rest).length := by simp
  have run : (Read.octets all.length).run (all ++ rest) =
      .ok ((all ++ rest).take all.length, (all ++ rest).drop all.length) := by
    unfold Read.octets
    exact congrFun (if_pos there) _
  rw [run, List.take_left, List.drop_left]

theorem takes_number {width n : Nat} (fits : n < UInt32.size ∨ 8 ≤ width ∧ n < UInt64.size) :
    (number width).Takes (writeNumber n) n := by
  unfold writeNumber
  by_cases small : n < 251
  · rw [if_pos small]
    refine (takes_octet _).bind_nil ?_
    have value : (UInt8.ofNat n).toNat = n := by
      rw [UInt8.toNat_ofNat']
      omega
    have plain : UInt8.ofNat n < tag16 := by
      rw [UInt8.lt_iff_toNat_lt, value]
      exact small
    rw [if_pos plain, value]
    exact takes_pure n
  rw [if_neg small]
  have wide (count : Nat) (fits : n < Nat.pow 256 count) :
      (do return fromLittleEndian (← octets count) : Read Nat).Takes (littleEndian count n) n := by
    have taken := takes_octets (littleEndian count n)
    rw [length_littleEndian] at taken
    refine taken.bind_nil ?_
    rw [fromLittleEndian_littleEndian fits]
    exact takes_pure n
  by_cases two : n < UInt16.size
  · rw [if_pos two]
    exact (takes_octet tag16).bind (wide 2 two)
  rw [if_neg two]
  by_cases four : n < UInt32.size
  · rw [if_pos four]
    exact (takes_octet tag32).bind (wide 4 four)
  rw [if_neg four]
  obtain ⟨allowed, eight⟩ : 8 ≤ width ∧ n < UInt64.size := fits.resolve_left four
  refine (takes_octet tag64).bind ?_
  rw [if_neg (by decide), if_neg (by decide), if_neg (by decide), if_pos ⟨rfl, allowed⟩]
  exact wide 8 eight

theorem takes_word (w : UInt64) : word.Takes (writeWord w) w := by
  refine (takes_number (.inr ⟨Nat.le_refl 8, w.toNat_lt⟩)).bind_nil ?_
  rw [UInt64.ofNat_toNat]
  exact takes_pure w

theorem takes_optional (known : Option UInt64) : optional.Takes (writeOptional known) known := by
  cases known with
  | none => exact (takes_octet 0).bind_nil (takes_pure none)
  | some w =>
    refine (takes_octet 1).bind ?_
    exact (takes_word w).bind_nil (takes_pure (some w))

theorem takes_text {written : String} (short : (Text.utf8 written).length < UInt64.size) :
    text.Takes (writeText written) written := by
  refine (takes_number (.inr ⟨Nat.le_refl 8, short⟩)).bind ?_
  refine (takes_octets _).bind_nil ?_
  rw [Text.ofUtf8?_utf8]
  exact takes_pure written

theorem takes_kind {written : AccessKind} (short : written.Addressable) :
    kind.Takes (writeKind written) written := by
  cases written with
  | load => exact (takes_number (n := 0) (.inl (by decide))).bind_nil (takes_pure _)
  | store => exact (takes_number (n := 1) (.inl (by decide))).bind_nil (takes_pure _)
  | other name =>
    refine (takes_number (n := 2) (.inl (by decide))).bind ?_
    exact (takes_text short).bind_nil (takes_pure _)

theorem takes_access {written : Access} (short : written.kind.Addressable) :
    access.Takes (writeAccess written) written := by
  simp only [writeAccess, List.append_assoc]
  refine (takes_word written.id.number).bind ?_
  refine (takes_kind short).bind ?_
  refine (takes_word written.address).bind ?_
  refine (takes_word written.start).bind ?_
  exact (takes_optional written.stop).bind_nil (takes_pure written)

theorem takes_items {item : Read α} {write : α → List UInt8} {all : List α}
    (takes : ∀ a ∈ all, item.Takes (write a) a) :
    (items item all.length).Takes (all.flatMap write) all := by
  induction all with
  | nil => exact takes_pure []
  | cons a rest ih =>
    rw [List.flatMap_cons]
    refine (takes a List.mem_cons_self).bind ?_
    exact (ih fun b hb => takes b (List.mem_cons_of_mem a hb)).bind_nil (takes_pure _)

theorem takes_snapshot {written : Snapshot} (addressable : written.Addressable) :
    snapshot.Takes (write written) written := by
  simp only [write, List.append_assoc]
  refine (takes_number (.inl written.version.toNat_lt)).bind ?_
  refine (takes_optional written.horizon).bind ?_
  refine (takes_number (.inr ⟨Nat.le_refl 8, addressable.count⟩)).bind ?_
  refine (takes_items fun a ha => takes_access (addressable.kinds a ha)).bind_nil ?_
  rw [UInt32.ofNat_toNat]
  exact takes_pure written

def Gives (read : Read α) (P : α → Prop) : Prop :=
  ∀ octets a rest, read.run octets = .ok (a, rest) → P a

variable {P : α → Prop} {Q : β → Prop}

theorem gives_pure (known : P a) : (pure a : Read α).Gives P := by
  intro octets _ rest run
  cases run
  exact known

theorem gives_throw (error : BinaryError) : (throw error : Read α).Gives P := by
  intro octets a rest run
  cases run

theorem Gives.bind (first : read.Gives P) (second : ∀ a, P a → (next a).Gives Q) :
    (read >>= next).Gives Q := by
  intro octets b rest run
  rw [StateT.run_bind] at run
  cases result : read.run octets with
  | error error =>
    rw [result] at run
    cases run
  | ok taken =>
    rw [result] at run
    exact second taken.1 (first octets taken.1 taken.2 result) taken.2 b rest run

theorem gives_any (read : Read α) : read.Gives fun _ => True := fun _ _ _ _ => trivial

theorem fromLittleEndian_lt (all : List UInt8) :
    fromLittleEndian all < Nat.pow 256 all.length := by
  induction all with
  | nil => exact Nat.one_pos
  | cons b rest ih =>
    have digit := b.toNat_lt
    have more : Nat.pow 256 (rest.length + 1) = Nat.pow 256 rest.length * 256 := rfl
    rw [fromLittleEndian, List.length_cons, more]
    omega

theorem gives_octets (count : Nat) : (Read.octets count).Gives fun all => all.length = count := by
  refine (gives_any get).bind ?_
  intro all _
  split
  · next there =>
    refine (gives_any (set _)).bind ?_
    intro _ _
    exact gives_pure (List.length_take_of_le there)
  · exact gives_throw _

theorem gives_number (width : Nat) : (number width).Gives (· < UInt64.size) := by
  have wide (count : Nat) (fits : count ≤ 8) :
      (do return fromLittleEndian (← Read.octets count) : Read Nat).Gives (· < UInt64.size) := by
    refine (gives_octets count).bind ?_
    intro all long
    have small := fromLittleEndian_lt all
    rw [long] at small
    exact gives_pure (Nat.lt_of_lt_of_le small (Nat.pow_le_pow_right (by decide) fits))
  refine (gives_any octet).bind ?_
  intro b _
  split
  · exact gives_pure (Nat.lt_trans b.toNat_lt (by decide))
  split
  · exact wide 2 (by decide)
  split
  · exact wide 4 (by decide)
  split
  · exact wide 8 (by decide)
  · exact gives_throw _

theorem gives_text : text.Gives fun name => (Text.utf8 name).length < UInt64.size := by
  refine (gives_number 8).bind ?_
  intro count small
  refine (gives_octets count).bind ?_
  intro all long
  split
  · next name known =>
    have same := Text.utf8_of_ofUtf8? known
    apply gives_pure
    rw [same, long]
    exact small
  · exact gives_throw _

theorem gives_kind : kind.Gives AccessKind.Addressable := by
  refine (gives_any (number 4)).bind ?_
  intro n _
  split
  · exact gives_pure trivial
  split
  · exact gives_pure trivial
  split
  · refine gives_text.bind ?_
    intro name short
    exact gives_pure short
  · exact gives_throw _

theorem gives_access : access.Gives fun a => a.kind.Addressable := by
  refine (gives_any word).bind ?_
  intro id _
  refine gives_kind.bind ?_
  intro kind short
  refine (gives_any word).bind ?_
  intro address _
  refine (gives_any word).bind ?_
  intro start _
  refine (gives_any optional).bind ?_
  intro stop _
  exact gives_pure short

theorem gives_items {item : Read α} (each : item.Gives P) (count : Nat) :
    (items item count).Gives fun all => all.length = count ∧ ∀ a ∈ all, P a := by
  induction count with
  | zero => exact gives_pure ⟨rfl, List.forall_mem_nil P⟩
  | succ count ih =>
    refine each.bind ?_
    intro a known
    refine ih.bind ?_
    intro rest ⟨long, all⟩
    have longer : (a :: rest).length = count + 1 := by rw [List.length_cons, long]
    exact gives_pure ⟨longer, List.forall_mem_cons.mpr ⟨known, all⟩⟩

theorem gives_snapshot : snapshot.Gives Snapshot.Addressable := by
  refine (gives_any (number 4)).bind ?_
  intro version _
  refine (gives_any optional).bind ?_
  intro horizon _
  refine (gives_number 8).bind ?_
  intro count small
  refine (gives_items gives_access count).bind ?_
  intro accesses ⟨long, kinds⟩
  exact gives_pure ⟨long ▸ small, kinds⟩

end Read

theorem addressable_of_read {source : Source} {snapshot : Snapshot}
    (known : read source = .ok snapshot) : snapshot.Addressable := by
  rw [read, StateT.run'] at known
  cases run : Read.snapshot source.octets with
  | error error =>
    rw [run] at known
    cases known
  | ok result =>
    rw [run] at known
    cases known
    exact Read.gives_snapshot source.octets result.1 result.2 run

theorem read_write {snapshot : Snapshot} (addressable : snapshot.Addressable)
    (rest : List UInt8) (failure : Option OsError) :
    read { octets := write snapshot ++ rest, failure } = .ok snapshot := by
  have run := Read.takes_snapshot addressable rest
  simp only [StateT.run] at run
  rw [read, StateT.run', run]
  rfl

end Binary

end AccessTrace
