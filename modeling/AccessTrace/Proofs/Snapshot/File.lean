import AccessTrace.Proofs.Snapshot.Binary
import AccessTrace.Proofs.Snapshot.Json
import AccessTrace.Proofs.Snapshot.Rebuild
import AccessTrace.Snapshot.File

namespace AccessTrace

theorem Snapshot.read_encode {snapshot : Snapshot} {format : Format}
    (fits : format = .binary → snapshot.Addressable) :
    read { octets := snapshot.encode format } format = .ok snapshot := by
  cases format with
  | binary =>
    have back := Binary.read_write (fits rfl) [] none
    rw [List.append_nil] at back
    simp only [read, encode, back]
  | json =>
    have back := Json.readSnapshot_writeSnapshot snapshot []
    rw [List.append_nil, List.all_nil, if_pos rfl] at back
    simp only [read, encode, back]

/-- A compact record is read back whatever stands behind it, if and only if the lengths in it fit in
words, as those of all snapshots in memory do. -/
theorem Snapshot.read_binary_append_iff (snapshot : Snapshot) :
    ∃ octets, snapshot.write .binary {} = .ok octets ∧
      (snapshot.Addressable ↔ ∀ rest failure,
        read { octets := octets ++ rest, failure } .binary = .ok snapshot) := by
  refine ⟨Binary.write snapshot, rfl, ?_, ?_⟩
  · intro addressable rest failure
    simp only [read, Binary.read_write addressable rest failure]
  · -- Nothing else can be read at all, so what is read back has lengths that fit.
    intro back
    have known := back [] none
    simp only [read] at known
    split at known
    · next found =>
      cases known
      exact Binary.addressable_of_read found
    · cases known

/-- Numbers of every width that a record has, at the ends of their ranges, and a text. -/
def Snapshot.widths : Snapshot :=
  ⟨0xFFFFFFFF, some 250,
    [⟨⟨251⟩, .load, 0xFFFF, 0x10000, some 0xFFFFFFFF⟩,
      ⟨⟨0xFFFFFFFFFFFFFFFF⟩, .other "préfetch", 0x100000000, 0, none⟩]⟩

theorem Snapshot.read_binary_append_iff_widths :
    widths.Addressable ∧ ∃ octets, widths.write .binary {} = .ok octets ∧
      ∀ rest failure, read { octets := octets ++ rest, failure } .binary = .ok widths := by
  have addressable : widths.Addressable := by
    have short : (Text.utf8 "préfetch").length < UInt64.size := by decide
    refine ⟨by decide, ?_⟩
    simp only [widths, List.forall_mem_cons]
    exact ⟨trivial, short, List.forall_mem_nil _⟩
  obtain ⟨octets, written, back⟩ := read_binary_append_iff widths
  exact ⟨addressable, octets, written, back.mp addressable⟩

/-- A document is read back with blanks behind it or nothing. It is refused if there is an octet
behind it that is no blank. -/
theorem Snapshot.read_json_append (snapshot : Snapshot) :
    ∃ octets, snapshot.write .json {} = .ok octets ∧ ∀ rest : List UInt8,
      read { octets := octets ++ rest } .json =
        if rest.all Json.isBlank then .ok snapshot else .error (.json .malformed) := by
  refine ⟨Json.writeSnapshot snapshot, rfl, fun rest => ?_⟩
  simp only [read, Json.readSnapshot_writeSnapshot]
  by_cases blank : rest.all Json.isBlank
  · simp only [blank, if_true]
  · simp only [blank, Bool.false_eq_true, if_false]

namespace Store

variable {store : Store} {format : Format} {path : Path}

def Addressable (store : Store) : Prop := (Snapshot.ofStore store).Addressable

/-- Saving the store gives octets, and loading them gives the store again. -/
def Survives (store : Store) (format : Format) : Prop :=
  ∃ octets, (Snapshot.ofStore store).write format {} = .ok octets ∧
    ∀ path, ofSource path format { octets } = .ok store

theorem ofSource_eq_ok_iff {source : Source} :
    ofSource path format source = .ok store ↔
      ∃ snapshot, Snapshot.read source format = .ok snapshot ∧ snapshot.toStore = .ok store := by
  unfold ofSource
  cases Snapshot.read source format with
  | error error => simp
  | ok snapshot =>
    simp only [Except.ok.injEq, exists_eq_left']
    cases snapshot.toStore with
    | error error => simp
    | ok made => simp

theorem write_eq_ok {snapshot : Snapshot} {target : Target} {octets : List UInt8}
    (written : snapshot.write format target = .ok octets) : octets = snapshot.encode format := by
  simp only [Snapshot.write] at written
  split at written
  · cases written
  · split at written
    · cases written
    · exact (Except.ok.inj written).symm

theorem ofSource_encode (indexed : store.Indexed) (forward : ∀ a ∈ store.accesses, a.Forward)
    (fits : format = .binary → store.Addressable) :
    ofSource path format { octets := (Snapshot.ofStore store).encode format } = .ok store :=
  ofSource_eq_ok_iff.mpr ⟨_, Snapshot.read_encode fits, Snapshot.toStore_ofStore indexed forward⟩

theorem survives (indexed : store.Indexed) (forward : ∀ a ∈ store.accesses, a.Forward)
    (fits : format = .binary → store.Addressable) : store.Survives format :=
  ⟨_, rfl, fun _ => ofSource_encode indexed forward fits⟩

end Store

end AccessTrace
