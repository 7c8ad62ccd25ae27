import AccessTrace.Json.Shape
import AccessTrace.Json.Skip
import AccessTrace.Snapshot.Basic

/-!
Snapshots as documents: objects without blanks on the way out, objects or arrays on the way in. On
the way in a member that is not known is passed over, and one that may be missing need not occur.
-/

namespace AccessTrace.Json

def plain (text : String) : List UInt8 := text.toList.map octet

def writeWord (w : UInt64) : List UInt8 := (Nat.toDigits 10 w.toNat).map octet

def writeOptional : Option UInt64 → List UInt8
  | none => plain "null"
  | some w => writeWord w

def writeKind : AccessKind → List UInt8
  | .load => plain "\"Load\""
  | .store => plain "\"Store\""
  | .other name => plain "\x7b\"Other\":" ++ writeText name ++ plain "\x7d"

def writeAccess (access : Access) : List UInt8 :=
  plain "\x7b\"id\":" ++ writeWord access.id.number ++
    plain ",\"kind\":" ++ writeKind access.kind ++
    plain ",\"address\":" ++ writeWord access.address ++
    plain ",\"cycle_start\":" ++ writeWord access.start ++
    plain ",\"cycle_end\":" ++ writeOptional access.stop ++ plain "\x7d"

def writeAccesses : List Access → List UInt8
  | [] => []
  | [access] => writeAccess access
  | access :: rest => writeAccess access ++ octet ',' :: writeAccesses rest

def writeSnapshot (snapshot : Snapshot) : List UInt8 :=
  plain "\x7b\"version\":" ++ writeWord snapshot.version.toUInt64 ++
    plain ",\"horizon\":" ++ writeOptional snapshot.horizon ++
    plain ",\"records\":[" ++ writeAccesses snapshot.accesses ++ plain "]\x7d"

namespace Scan

def word : Scan UInt64 := wholeBelow UInt64.size

def halfWord : Scan UInt32 := return (← wholeBelow UInt32.size).toUInt32

/-- Takes the kind that an object names: one of the plain kinds with `null`, or the name of another
kind. A key that is no text breaks the grammar. -/
def namedKind : Scan AccessKind := do
  if (← needToken) ≠ octet '"' then throw .malformed
  let name ← text
  if name = "Load" then
    colon
    null
    return .load
  else if name = "Store" then
    colon
    null
    return .store
  else if name = "Other" then
    colon
    return .other (← text)
  else throw .mismatch

def kind : Scan AccessKind := do
  let b ← needToken
  if b = octet '{' then
    skip
    let kind ← namedKind
    if (← needToken) = octet '}' then
      skip
      return kind
    else throw .malformed
  else if b = octet '"' then
    let name ← text
    if name = "Load" then return .load
    else if name = "Store" then return .store
    else throw .mismatch
  else throw .malformed

structure AccessDraft where
  id : Option UInt64 := none
  kind : Option AccessKind := none
  address : Option Address := none
  start : Option Cycle := none
  stop : Option (Option Cycle) := none

def accessMember (key : String) (draft : AccessDraft) : Scan AccessDraft := do
  if key = "id" then return { draft with id := ← once draft.id word }
  else if key = "kind" then return { draft with kind := ← once draft.kind kind }
  else if key = "address" then return { draft with address := ← once draft.address word }
  else if key = "cycle_start" then
    return { draft with start := ← once draft.start word }
  else if key = "cycle_end" then
    return { draft with stop := ← once draft.stop (optional word) }
  else
    colon
    Skip.value
    return draft

def accessByName : Scan Access := do
  let draft ← fields accessMember {}
  return {
    id := ⟨← required draft.id⟩
    kind := ← required draft.kind
    address := ← required draft.address
    start := ← required draft.start
    stop := draft.stop.join }

def accessInOrder : Scan Access := do
  let id ← item true word
  let kind ← item false kind
  let address ← item false word
  let start ← item false word
  let stop ← item false (optional word)
  return { id := ⟨id⟩, kind, address, start, stop }

def access : Scan Access := structured accessInOrder accessByName

structure SnapshotDraft where
  version : Option UInt32 := none
  horizon : Option (Option Cycle) := none
  accesses : Option (List Access) := none

def snapshotMember (key : String) (draft : SnapshotDraft) : Scan SnapshotDraft := do
  if key = "version" then return { draft with version := ← once draft.version halfWord }
  else if key = "horizon" then
    return { draft with horizon := ← once draft.horizon (optional word) }
  else if key = "records" then
    return { draft with accesses := ← once draft.accesses (list access) }
  else
    colon
    Skip.value
    return draft

def snapshotByName : Scan Snapshot := do
  let draft ← fields snapshotMember {}
  return {
    version := ← required draft.version
    horizon := draft.horizon.join
    accesses := ← required draft.accesses }

def snapshotInOrder : Scan Snapshot := do
  let version ← item true halfWord
  let horizon ← item false (optional word)
  let accesses ← item false (list access)
  return ⟨version, horizon, accesses⟩

def snapshot : Scan Snapshot := structured snapshotInOrder snapshotByName

end Scan

def readSnapshot (source : Source) : Except JsonError Snapshot :=
  Scan.document Scan.snapshot source

end AccessTrace.Json
