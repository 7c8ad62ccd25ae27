import AccessTrace.Proofs.Json.Number
import AccessTrace.Proofs.Json.Shape
import AccessTrace.Snapshot.Json

namespace AccessTrace.Json

theorem writeKind_other (name : String) :
    writeKind (.other name) =
      octet '{' :: (writeText "Other" ++ octet ':' :: writeText name ++ [octet '}']) := by
  have front : plain "\x7b\"Other\":" = octet '{' :: (writeText "Other" ++ [octet ':']) := by
    decide
  have back : plain "\x7d" = [octet '}'] := by decide
  simp only [writeKind, front, back, List.cons_append, List.append_assoc, List.nil_append]

def membersOf (access : Access) : List (String × List UInt8) :=
  [("id", writeWord access.id.number), ("kind", writeKind access.kind),
    ("address", writeWord access.address), ("cycle_start", writeWord access.start),
    ("cycle_end", writeOptional access.stop)]

theorem writeAccess_eq (access : Access) :
    writeAccess access = octet '{' :: (writeMembers true (membersOf access) ++ [octet '}']) := by
  have id : plain "\x7b\"id\":" = octet '{' :: (writeText "id" ++ [octet ':']) := by decide
  have kind : plain ",\"kind\":" = octet ',' :: (writeText "kind" ++ [octet ':']) := by decide
  have address : plain ",\"address\":" = octet ',' :: (writeText "address" ++ [octet ':']) := by
    decide
  have start : plain ",\"cycle_start\":" =
      octet ',' :: (writeText "cycle_start" ++ [octet ':']) := by decide
  have stop : plain ",\"cycle_end\":" = octet ',' :: (writeText "cycle_end" ++ [octet ':']) := by
    decide
  have back : plain "\x7d" = [octet '}'] := by decide
  simp only [writeAccess, membersOf, writeMembers, separator, id, kind, address, start, stop, back,
    List.cons_append, List.append_assoc, List.nil_append, List.append_nil, if_true,
    Bool.false_eq_true, if_false]

theorem writeAccesses_eq (accesses : List Access) :
    writeAccesses accesses = writeItems writeAccess true accesses := by
  have tail (rest : List Access) : ∀ access : Access,
      writeAccesses (access :: rest) = writeAccess access ++ writeItems writeAccess false rest := by
    induction rest with
    | nil =>
      intro access
      exact (List.append_nil _).symm
    | cons next rest ih =>
      intro access
      rw [writeAccesses, ih next]
      · rfl
      · exact List.cons_ne_nil _ _
  cases accesses with
  | nil => rfl
  | cons access rest => exact tail rest access

def membersOfSnapshot (snapshot : Snapshot) : List (String × List UInt8) :=
  [("version", writeWord snapshot.version.toUInt64), ("horizon", writeOptional snapshot.horizon),
    ("records", octet '[' :: (writeItems writeAccess true snapshot.accesses ++ [octet ']']))]

theorem writeSnapshot_eq (snapshot : Snapshot) :
    writeSnapshot snapshot =
      octet '{' :: (writeMembers true (membersOfSnapshot snapshot) ++ [octet '}']) := by
  have version : plain "\x7b\"version\":" = octet '{' :: (writeText "version" ++ [octet ':']) := by
    decide
  have horizon : plain ",\"horizon\":" = octet ',' :: (writeText "horizon" ++ [octet ':']) := by
    decide
  have records : plain ",\"records\":[" =
      octet ',' :: (writeText "records" ++ [octet ':', octet '[']) := by decide
  have back : plain "]\x7d" = [octet ']', octet '}'] := by decide
  simp only [writeSnapshot, membersOfSnapshot, writeMembers, separator, version, horizon, records,
    back, writeAccesses_eq, List.cons_append, List.append_assoc, List.nil_append, List.append_nil,
    if_true, Bool.false_eq_true, if_false]

namespace Scan

variable {B : List UInt8 → Prop}

theorem takes_word (w : UInt64) : Takes Closes word (writeWord w) w :=
  takes_wholeBelow w.toNat_lt

theorem takes_halfWord (w : UInt32) : Takes Closes halfWord (writeWord w.toUInt64) w := by
  refine (takes_wholeBelow (by simpa using w.toNat_lt)).bind_nil ?_
  rw [UInt32.toUInt32_toUInt64]
  exact takes_pure w

theorem takes_optional (known : Option UInt64) :
    Takes Closes (Scan.optional word) (writeOptional known) known := by
  cases known with
  | none =>
    have written : writeOptional none = [octet 'n', octet 'u', octet 'l', octet 'l'] := by decide
    rw [written]
    refine takes_of_token (by decide) ?_
    rw [if_pos rfl]
    exact (takes_exactly _).bind_nil (takes_pure none)
  | some w =>
    have value := takes_word w
    obtain ⟨b, rest, written, digit⟩ := map_octet_toDigits w.toNat
    rw [writeOptional, writeWord, written]
    rw [writeWord, written] at value
    refine takes_of_token (isBlank_of_isDigit digit) ?_
    rw [if_neg fun same => ne_of_isDigit digit (by decide) (Option.some.inj same)]
    exact value.bind_nil (takes_pure (some w))

theorem takes_kind (written : AccessKind) : Takes B kind (writeKind written) written := by
  have named (name : String) (result : AccessKind)
      (known : Takes B (if name = "Load" then pure .load
        else if name = "Store" then pure .store else throw .mismatch) [] result) :
      Takes B kind (writeText name) result := by
    refine takes_of_needToken (by decide) ?_
    rw [if_neg (by decide), if_pos rfl]
    exact (takes_text name).bind_nil known
  cases written with
  | load =>
    have quoted : writeKind .load = writeText "Load" := by decide
    rw [quoted]
    exact named "Load" .load (takes_pure _)
  | store =>
    have quoted : writeKind .store = writeText "Store" := by decide
    rw [quoted]
    exact named "Store" .store (takes_pure _)
  | other name =>
    have other : Takes Anything namedKind (writeText "Other" ++ octet ':' :: writeText name)
        (.other name) := by
      refine takes_of_needToken (by decide) ?_
      rw [if_neg (by decide)]
      refine (takes_text "Other").bind ?_
      rw [if_neg (by decide), if_neg (by decide), if_pos rfl]
      exact takes_colon.bind ((takes_text name).bind_nil (takes_pure _))
    rw [writeKind_other]
    refine takes_of_needToken (by decide) ?_
    rw [if_pos rfl]
    refine (takes_skip _).bind (other.bind ?_)
    refine takes_of_needToken (by decide) ?_
    rw [if_pos rfl]
    exact (takes_skip _).bind_nil (takes_pure _)

theorem fills_access (written : Access) :
    Fills accessMember {} (membersOf written)
      { id := written.id.number, kind := written.kind, address := written.address,
        start := written.start, stop := some written.stop } := by
  refine .cons ((takes_once (takes_word _)).bind_nil (takes_pure _)) ?_
  refine .cons ((takes_once (takes_kind _)).bind_nil (takes_pure _)) ?_
  refine .cons ((takes_once (takes_word _)).bind_nil (takes_pure _)) ?_
  refine .cons ((takes_once (takes_word _)).bind_nil (takes_pure _)) ?_
  refine .cons ((takes_once (takes_optional _)).bind_nil (takes_pure _)) ?_
  exact .nil _

theorem takes_access (written : Access) : Takes B access (writeAccess written) written := by
  rw [writeAccess_eq]
  exact takes_structured ((takes_fields (fills_access written)).bind_nil fun _ _ _ => rfl)

theorem begins_access (access : Access) : Begins (writeAccess access) :=
  ⟨_, _, writeAccess_eq access, by decide, by decide⟩

theorem fills_snapshot (written : Snapshot) :
    Fills snapshotMember {} (membersOfSnapshot written)
      { version := written.version, horizon := some written.horizon,
        accesses := written.accesses } := by
  have accesses : Takes Closes (list access)
      (octet '[' :: (writeItems writeAccess true written.accesses ++ [octet ']']))
      written.accesses :=
    takes_list (fun a _ => begins_access a) fun a _ => takes_access a
  refine .cons ((takes_once (takes_halfWord _)).bind_nil (takes_pure _)) ?_
  refine .cons ((takes_once (takes_optional _)).bind_nil (takes_pure _)) ?_
  refine .cons ((takes_once accesses).bind_nil (takes_pure _)) ?_
  exact .nil _

theorem takes_snapshot (written : Snapshot) : Takes B snapshot (writeSnapshot written) written := by
  rw [writeSnapshot_eq]
  exact takes_structured ((takes_fields (fills_snapshot written)).bind_nil fun _ _ _ => rfl)

end Scan

theorem readSnapshot_writeSnapshot (snapshot : Snapshot) (rest : List UInt8) :
    readSnapshot { octets := writeSnapshot snapshot ++ rest } =
      if rest.all isBlank then .ok snapshot else .error .malformed :=
  Scan.document_of_takes (Scan.takes_snapshot snapshot) rest

end AccessTrace.Json
