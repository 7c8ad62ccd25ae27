import AccessTrace.Failure
import AccessTrace.Store.Basic

namespace AccessTrace

structure Snapshot where
  version : UInt32
  horizon : Option Cycle
  accesses : List Access
  deriving DecidableEq, Repr, Inhabited

inductive SnapshotError where
  | version (found : UInt32)
  | backwards (id : AccessId) (start stop : Cycle)
  | duplicate (id : AccessId)
  deriving DecidableEq, Repr

namespace Snapshot

def currentVersion : UInt32 := 1

def ofStore (store : Store) : Snapshot :=
  ⟨currentVersion, store.horizon, store.toList⟩

def addAccess (store : Store) (access : Access) : Except SnapshotError Store :=
  match access.stop.filter (· < access.start) with
  | some last => .error (.backwards access.id access.start last)
  | none =>
    match store.insertIfNew access with
    | (true, store) => .ok store
    | (false, _) => .error (.duplicate access.id)

def toStore (snapshot : Snapshot) : Except SnapshotError Store := do
  if snapshot.version ≠ currentVersion then throw (.version snapshot.version)
  let store ← snapshot.accesses.foldlM addAccess .empty
  return match snapshot.horizon with
    | some cycle => store.observe cycle
    | none => store

end Snapshot

def SnapshotError.message : SnapshotError → String
  | .version found => s!"Unsupported data version {found}, expected {Snapshot.currentVersion}"
  | .backwards id start stop =>
    s!"Access {id.name} ends at {stop} before it starts at {start}"
  | .duplicate id => s!"Duplicate access {id.name}"

end AccessTrace
