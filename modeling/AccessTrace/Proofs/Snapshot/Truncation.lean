import AccessTrace.Proofs.Json.Local
import AccessTrace.Proofs.Snapshot.File

namespace AccessTrace

namespace Binary.Read

variable {α β : Type} {read : Read α} {next : α → Read β}

def Local (read : Read α) : Prop :=
  ∀ octets a left, read.run octets = .ok (a, left) →
    ∃ taken, octets = taken ++ left ∧ read.Takes taken a

theorem local_pure (a : α) : Local (pure a) := by
  intro octets _ left run
  cases run
  exact ⟨[], rfl, takes_pure a⟩

theorem local_throw (error : BinaryError) : Local (throw error : Read α) := by
  intro octets a left run
  cases run

theorem Local.bind (first : Local read) (second : ∀ a, Local (next a)) :
    Local (read >>= next) := by
  intro octets b left run
  rw [StateT.run_bind] at run
  cases result : read.run octets with
  | error error =>
    rw [result] at run
    cases run
  | ok middle =>
    rw [result] at run
    obtain ⟨taken, rfl, takes⟩ := first octets middle.1 middle.2 result
    obtain ⟨taken', same, takes'⟩ := second middle.1 middle.2 b left run
    exact ⟨taken ++ taken', by rw [same, List.append_assoc], takes.bind takes'⟩

theorem Local.ite {condition : Prop} [Decidable condition] {other : Read α} (first : Local read)
    (second : Local other) : Local (if condition then read else other) := by
  split
  · exact first
  · exact second

theorem local_octet : Local octet := by
  intro octets b left run
  cases octets with
  | nil => cases run
  | cons c rest =>
    cases run
    exact ⟨[b], rfl, takes_octet b⟩

theorem local_octets (count : Nat) : Local (Read.octets count) := by
  intro octets all left run
  by_cases there : count ≤ octets.length
  · have taken : (Read.octets count).run octets = .ok (octets.take count, octets.drop count) := by
      unfold Read.octets
      exact congrFun (if_pos there) _
    rw [taken] at run
    cases run
    have takes := takes_octets (octets.take count)
    rw [List.length_take_of_le there] at takes
    exact ⟨octets.take count, (List.take_append_drop count octets).symm, takes⟩
  · have refused : (Read.octets count).run octets = .error .unreadable := by
      unfold Read.octets
      exact congrFun (if_neg there) _
    rw [refused] at run
    cases run

theorem local_number (width : Nat) : Local (number width) := by
  have wide (count : Nat) :
      Local (do return fromLittleEndian (← Read.octets count) : Read Nat) :=
    (local_octets count).bind fun all => local_pure (fromLittleEndian all)
  refine local_octet.bind fun b => ?_
  exact (local_pure _).ite ((wide 2).ite ((wide 4).ite ((wide 8).ite (local_throw _))))

theorem local_word : Local word :=
  (local_number 8).bind fun n => local_pure (UInt64.ofNat n)

theorem local_optional : Local optional := by
  refine local_octet.bind fun b => .ite (local_pure none) (.ite ?_ (local_throw _))
  exact local_word.bind fun w => local_pure (some w)

theorem local_text : Local text := by
  refine (local_number 8).bind fun count => (local_octets count).bind fun all => ?_
  cases Text.ofUtf8? all with
  | none => exact local_throw _
  | some text => exact local_pure text

theorem local_kind : Local kind := by
  refine (local_number 4).bind fun n => .ite (local_pure _) (.ite (local_pure _) (.ite ?_ ?_))
  · exact local_text.bind fun name => local_pure (AccessKind.other name)
  · exact local_throw _

theorem local_access : Local access := by
  refine local_word.bind fun id => local_kind.bind fun kind => ?_
  refine local_word.bind fun address => local_word.bind fun start => ?_
  exact local_optional.bind fun stop => local_pure _

theorem local_items {item : Read α} (each : Local item) (count : Nat) :
    Local (items item count) := by
  induction count with
  | zero => exact local_pure []
  | succ count ih => exact each.bind fun a => ih.bind fun rest => local_pure (a :: rest)

theorem local_snapshot : Local snapshot := by
  refine (local_number 4).bind fun version => local_optional.bind fun horizon => ?_
  refine (local_number 8).bind fun count => ?_
  exact (local_items local_access count).bind fun accesses => local_pure _

end Binary.Read

theorem Binary.read_of_front {snapshot : Snapshot} (addressable : snapshot.Addressable)
    {front behind : List UInt8} (parted : front ++ behind = write snapshot) (cut : behind ≠ [])
    (failure : Option OsError) : ∃ error, read { octets := front, failure } = .error error := by
  cases result : Read.snapshot.run front with
  | error error =>
    simp only [StateT.run] at result
    exact ⟨error, by rw [read, StateT.run', result]; rfl⟩
  | ok found =>
    -- The reader takes what it has found of the whole record too, and then leaves what is behind.
    obtain ⟨taken, rfl, takes⟩ := Read.local_snapshot front found.1 found.2 result
    have whole := Read.takes_snapshot addressable []
    rw [List.append_nil, ← parted, List.append_assoc, takes] at whole
    have none_left : found.2 ++ behind = [] := (Prod.mk.inj (Except.ok.inj whole)).2
    exact absurd (List.append_eq_nil_iff.mp none_left).2 cut

namespace Json

open Scan

namespace Scan

theorem local_word : Local word := local_wholeBelow _

theorem local_halfWord : Local halfWord :=
  (local_wholeBelow _).bind fun n => local_pure n.toUInt32

theorem local_namedKind : Local namedKind := by
  have taken : Local (do
      let name ← text
      if name = "Load" then
        colon
        null
        return .load
      else if name = "Store" then
        colon
        null
        return .store
      else if name = "Other" then
        colon
        return .other (← text)
      else throw .mismatch : Scan AccessKind) := by
    refine local_text.bind fun name => .ite ?_ (.ite ?_ (.ite ?_ (local_throw _)))
    · exact local_colon.bind fun _ => local_null.bind fun _ => local_pure _
    · exact local_colon.bind fun _ => local_null.bind fun _ => local_pure _
    · exact local_colon.bind fun _ => local_text.bind fun name => local_pure _
  exact local_needToken.bind fun b => .ite ((local_throw _).bind fun _ => taken) taken

theorem local_kind : Local kind := by
  refine local_needToken.bind fun b => .ite ?_ (.ite ?_ (local_throw _))
  · refine local_skip.bind fun _ => local_namedKind.bind fun kind => ?_
    refine local_needToken.bind fun c => .ite ?_ (local_throw _)
    exact local_skip.bind fun _ => local_pure kind
  · refine local_text.bind fun name => ?_
    exact (local_pure _).ite ((local_pure _).ite (local_throw _))

theorem local_unknown {σ : Type} (draft : σ) :
    Local (do colon; Skip.value; return draft) :=
  local_colon.bind fun _ => local_skipValue.bind fun _ => local_pure draft

theorem local_accessMember (key : String) (draft : AccessDraft) :
    Local (accessMember key draft) := by
  refine .ite ?_ (.ite ?_ (.ite ?_ (.ite ?_ (.ite ?_ (local_unknown draft)))))
  · exact (local_once _ local_word).bind fun _ => local_pure _
  · exact (local_once _ local_kind).bind fun _ => local_pure _
  · exact (local_once _ local_word).bind fun _ => local_pure _
  · exact (local_once _ local_word).bind fun _ => local_pure _
  · exact (local_once _ (local_optional local_word)).bind fun _ => local_pure _

theorem local_accessByName : Local accessByName := by
  refine (local_fields local_accessMember _).bind fun draft => ?_
  refine (local_required _).bind fun id => (local_required _).bind fun kind => ?_
  exact (local_required _).bind fun address => (local_required _).bind fun start => local_pure _

theorem local_accessInOrder : Local accessInOrder := by
  refine (local_item true local_word).bind fun id => ?_
  refine (local_item false local_kind).bind fun kind => ?_
  refine (local_item false local_word).bind fun address => ?_
  refine (local_item false local_word).bind fun start => ?_
  exact (local_item false (local_optional local_word)).bind fun stop => local_pure _

theorem local_access : Local access :=
  local_structured local_accessInOrder local_accessByName

theorem local_snapshotMember (key : String) (draft : SnapshotDraft) :
    Local (snapshotMember key draft) := by
  refine .ite ?_ (.ite ?_ (.ite ?_ (local_unknown draft)))
  · exact (local_once _ local_halfWord).bind fun _ => local_pure _
  · exact (local_once _ (local_optional local_word)).bind fun _ => local_pure _
  · exact (local_once _ (local_list local_access)).bind fun _ => local_pure _

theorem local_snapshotByName : Local snapshotByName := by
  refine (local_fields local_snapshotMember _).bind fun draft => ?_
  exact (local_required _).bind fun version => (local_required _).bind fun accesses => local_pure _

theorem run_required_eq_ok {α : Type} {known : Option α} {a : α} {source left : Source} :
    (required known).run source = .ok (a, left) ↔ known = some a ∧ left = source := by
  cases known with
  | none =>
    constructor
    · intro run
      cases run
    · rintro ⟨⟨⟩, -⟩
  | some b =>
    constructor
    · intro run
      cases run
      exact ⟨rfl, rfl⟩
    · rintro ⟨⟨⟩, rfl⟩
      rfl

theorem ahead_of_snapshotByName {found : Snapshot} {source left : Source}
    (run : snapshotByName.run source = .ok (found, left)) : Ahead (octet '}') left.octets := by
  obtain ⟨draft, middle, filled, rest⟩ := run_bind_eq_ok.mp run
  obtain ⟨version, _, there, rest'⟩ := run_bind_eq_ok.mp rest
  obtain ⟨accesses, _, there', made⟩ := run_bind_eq_ok.mp rest'
  obtain ⟨-, rfl⟩ := run_required_eq_ok.mp there
  obtain ⟨-, rfl⟩ := run_required_eq_ok.mp there'
  cases made
  exact ahead_of_fields filled

theorem takes_snapshotByName (written : Snapshot) :
    Takes (Ahead (octet '}')) snapshotByName (writeMembers true (membersOfSnapshot written))
      written :=
  (takes_fields (fills_snapshot written)).bind_nil fun _ _ _ => rfl

theorem run_snapshot_object (rest : List UInt8) (failure : Option OsError) :
    snapshot.run ⟨octet '{' :: rest, failure⟩ =
      (snapshotByName >>= fun a => skip >>= fun _ => pure a : Scan Snapshot).run
        ⟨rest, failure⟩ := by
  rw [snapshot, structured, StateT.run_bind, run_needToken _ rest failure (by decide)]
  rfl

theorem run_snapshot_of_front {written found : Snapshot} {front behind : List UInt8}
    {failure : Option OsError} {left : Source} (parted : front ++ behind = writeSnapshot written)
    (run : snapshot.run ⟨front, failure⟩ = .ok (found, left)) : behind = [] := by
  rw [writeSnapshot_eq] at parted
  cases front with
  | nil => cases failure <;> cases run
  | cons c front =>
    rw [List.cons_append] at parted
    obtain ⟨rfl, members⟩ := List.cons.inj parted
    rw [run_snapshot_object] at run
    obtain ⟨a, middle, named, -⟩ := run_bind_eq_ok.mp run
    obtain ⟨taken, same, takes⟩ := local_snapshotByName _ a middle named
    obtain ⟨after, ahead⟩ := ahead_of_snapshotByName named
    obtain ⟨rfl, -⟩ := Source.mk.inj same
    rw [ahead] at takes members
    -- The members go on behind the cut, and yet what is taken of them ends in front of it.
    have again := takes (List.cons_ne_nil _ _) (octet '}' :: (after ++ behind)) none ⟨behind, rfl⟩
    have whole := takes_snapshotByName written [octet '}'] none ⟨[], rfl⟩
    rw [← members, List.append_assoc, List.cons_append, again] at whole
    have only : octet '}' :: (after ++ behind) = [octet '}'] := by
      injection whole with same
      exact (Source.mk.inj (Prod.mk.inj same).2).1
    exact (List.append_eq_nil_iff.mp (List.cons.inj only).2).2

end Scan

theorem readSnapshot_of_front {written : Snapshot} {front behind : List UInt8}
    (parted : front ++ behind = writeSnapshot written) (cut : behind ≠ [])
    (failure : Option OsError) :
    ∃ error, readSnapshot { octets := front, failure } = .error error := by
  cases result : Scan.snapshot.run ⟨front, failure⟩ with
  | error error =>
    refine ⟨error, ?_⟩
    simp only [StateT.run] at result
    rw [readSnapshot, document, StateT.run']
    simp only [bind, StateT.bind, result]
    rfl
  | ok found => exact absurd (run_snapshot_of_front parted result) cut

end Json

/-- No strict front of what is written can be read, wherever it ends and whether the source ends
there or fails. So a file that was cut off gives no store. -/
theorem Snapshot.read_of_cut (snapshot : Snapshot) (format : Format)
    (fits : format = .binary → snapshot.Addressable) :
    ∃ octets, snapshot.write format {} = .ok octets ∧
      ∀ front failure, front <+: octets → front ≠ octets →
        ∃ error, read { octets := front, failure } format = .error error ∧
          ∀ path, Store.ofSource path format { octets := front, failure } =
            .error (.read path error) := by
  refine ⟨snapshot.encode format, rfl, ?_⟩
  rintro front failure ⟨behind, parted⟩ strict
  have cut : behind ≠ [] := by
    rintro rfl
    exact strict (by rw [← parted, List.append_nil])
  have refused : ∃ error, read { octets := front, failure } format = .error error := by
    cases format with
    | binary =>
      obtain ⟨error, refused⟩ := Binary.read_of_front (fits rfl) parted cut failure
      exact ⟨.binary error, by simp only [read, refused]⟩
    | json =>
      obtain ⟨error, refused⟩ := Json.readSnapshot_of_front parted cut failure
      exact ⟨.json error, by simp only [read, refused]⟩
  obtain ⟨error, refused⟩ := refused
  exact ⟨error, refused, fun path => by simp only [Store.ofSource, refused]⟩

/-- Numbers of more than one octet, and a text with a character of two octets. -/
def Snapshot.accented : Snapshot :=
  ⟨1, some 300, [⟨⟨70000⟩, .other "é", 16, 300, none⟩]⟩

theorem Snapshot.read_of_cut_accented :
    accented.Addressable ∧ ∃ octets, accented.write .binary {} = .ok octets ∧
      octets.length = 20 ∧ read { octets } .binary = .ok accented ∧
      ∀ count < 20, ∃ error, read { octets := octets.take count } .binary = .error error := by
  have addressable : accented.Addressable := by
    have short : (Text.utf8 "é").length < UInt64.size := by decide
    refine ⟨by decide, ?_⟩
    simp only [accented, List.forall_mem_singleton]
    exact short
  obtain ⟨octets, written, refused⟩ := read_of_cut accented .binary fun _ => addressable
  have size : octets.length = 20 := by
    cases written
    decide +kernel
  have whole : read { octets } .binary = .ok accented := by
    cases written
    rfl
  refine ⟨addressable, octets, written, size, whole, fun count short => ?_⟩
  have strict : octets.take count ≠ octets := by
    intro same
    have length := congrArg List.length same
    rw [List.length_take] at length
    omega
  obtain ⟨error, refused, -⟩ := refused _ none (List.take_prefix count octets) strict
  exact ⟨error, refused⟩

end AccessTrace
