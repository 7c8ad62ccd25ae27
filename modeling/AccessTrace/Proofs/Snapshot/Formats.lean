import AccessTrace.Proofs.Snapshot.File

namespace AccessTrace

namespace Binary

theorem length_le_flatMap {α : Type} (write : α → List UInt8) {a : α} {all : List α}
    (member : a ∈ all) : (write a).length ≤ (all.flatMap write).length := by
  obtain ⟨front, behind, rfl⟩ := List.append_of_mem member
  simp only [List.flatMap_append, List.flatMap_cons, List.length_append]
  omega

theorem length_writeAccess (access : Access) : 1 ≤ (writeAccess access).length := by
  have stop : 1 ≤ (writeOptional access.stop).length := by
    cases access.stop <;> simp [writeOptional]
  simp only [writeAccess, List.length_append]
  omega

theorem addressable_of_length {snapshot : Snapshot}
    (short : (write snapshot).length < UInt64.size) : snapshot.Addressable := by
  simp only [write, List.length_append] at short
  refine ⟨?_, fun a member => ?_⟩
  · have all (accesses : List Access) :
        accesses.length ≤ (accesses.flatMap writeAccess).length := by
      induction accesses with
      | nil => exact Nat.zero_le _
      | cons access rest ih =>
        have one := length_writeAccess access
        simp only [List.flatMap_cons, List.length_append, List.length_cons]
        omega
    have := all snapshot.accesses
    omega
  · have whole := length_le_flatMap writeAccess member
    cases kind : a.kind with
    | load => trivial
    | store => trivial
    | other name =>
      have inside : (Text.utf8 name).length ≤ (writeAccess a).length := by
        simp only [writeAccess, kind, writeKind, writeText, List.length_append]
        omega
      exact Nat.lt_of_le_of_lt (Nat.le_trans inside whole) (by omega)

/-- The brace of a document is a number, and the quote behind it is no tag. -/
theorem read_document (snapshot : Snapshot) (failure : Option OsError) :
    read { octets := Json.writeSnapshot snapshot, failure } = .error .unexpectedVariant := by
  have front : Json.plain "\x7b\"version\":" = 0x7b :: 0x22 :: Json.plain "version\":" := by decide
  simp only [Json.writeSnapshot, front, List.cons_append]
  rfl

end Binary

theorem Json.readSnapshot_record (snapshot : Snapshot)
    (current : snapshot.version = Snapshot.currentVersion) (failure : Option OsError) :
    readSnapshot { octets := Binary.write snapshot, failure } = .error .malformed := by
  have front : Binary.writeNumber Snapshot.currentVersion.toNat = [1] := by decide
  simp only [Binary.write, current, front, List.cons_append]
  rfl

/-- What was saved in one format cannot be loaded in another one. -/
theorem Store.ofSource_encode_of_ne {store : Store} {saved opened : Format} (apart : saved ≠ opened)
    (path : Path) : ∃ error,
      ofSource path opened { octets := (Snapshot.ofStore store).encode saved } = .error error := by
  cases saved with
  | binary =>
    cases opened with
    | binary => exact absurd rfl apart
    | json =>
      have refused := Json.readSnapshot_record (Snapshot.ofStore store) rfl none
      refine ⟨.read path (.json .malformed), ?_⟩
      simp only [ofSource, Snapshot.read, Snapshot.encode, refused]
  | json =>
    cases opened with
    | binary =>
      have refused := Binary.read_document (Snapshot.ofStore store) none
      refine ⟨.read path (.binary .unexpectedVariant), ?_⟩
      simp only [ofSource, Snapshot.read, Snapshot.encode, refused]
    | json => exact absurd rfl apart

end AccessTrace
