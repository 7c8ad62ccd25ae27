import AccessTrace.Directory
import AccessTrace.Snapshot.Binary
import AccessTrace.Snapshot.Json

namespace AccessTrace

inductive Format where
  | binary
  | json
  deriving DecidableEq, Repr, Inhabited

def Format.label : Format → String
  | .binary => "Bincode"
  | .json => "Json"

def Format.ofPath (path : Path) : Format :=
  match path.extension? with
  | some ending => if ending.map Char.toLower = "json".toList then .json else .binary
  | none => .binary

inductive EncodeError where
  | binary (error : BinaryError)
  | json (error : JsonError)
  | flush (error : OsError)
  deriving DecidableEq, Repr

def Format.unwritable (cause : OsError) : Format → EncodeError
  | .binary => .binary .unreadable
  | .json => .json (.unreadable cause)

def EncodeError.chain : EncodeError → List Link
  | .binary error => [.text "Unable to encode data", .binary error]
  | .json error => [.text "Unable to serialize data", .json error]
  | .flush error => [.text "Unable to flush data", .os error]

inductive DecodeError where
  | binary (error : BinaryError)
  | json (error : JsonError)
  deriving DecidableEq, Repr

def DecodeError.chain : DecodeError → List Link
  | .binary error => [.text "Unable to decode data", .binary error]
  | .json error => [.text "Unable to deserialize data", .json error]

inductive SaveError where
  | create (path : Path) (error : OsError)
  | write (path : Path) (error : EncodeError)
  deriving DecidableEq, Repr

def SaveError.chain : SaveError → List Link
  | .create path error => [.text s!"Unable to create {path.label}", .os error]
  | .write path error => .text s!"Unable to write {path.label}" :: error.chain

inductive LoadError where
  | opening (path : Path) (error : OsError)
  | read (path : Path) (error : DecodeError)
  | invalid (path : Path) (error : SnapshotError)
  deriving DecidableEq, Repr

def LoadError.chain : LoadError → List Link
  | .opening path error => [.text s!"Unable to open {path.label}", .os error]
  | .read path error => .text s!"Unable to read {path.label}" :: error.chain
  | .invalid path error => [.text s!"Invalid data in {path.label}", .text error.message]

namespace Snapshot

def encode (snapshot : Snapshot) : Format → List UInt8
  | .binary => Binary.write snapshot
  | .json => Json.writeSnapshot snapshot

def write (snapshot : Snapshot) (format : Format) (target : Target) :
    Except EncodeError (List UInt8) :=
  let octets := snapshot.encode format
  if !target.takes octets.length then .error (format.unwritable .other)
  else if target.flushFails then .error (.flush .other)
  else .ok octets

def read (source : Source) : Format → Except DecodeError Snapshot
  | .binary => match Binary.read source with
    | .ok snapshot => .ok snapshot
    | .error error => .error (.binary error)
  | .json => match Json.readSnapshot source with
    | .ok snapshot => .ok snapshot
    | .error error => .error (.json error)

end Snapshot

namespace Store

variable {m : Type → Type} [Monad m] [Files m]

def gathered : Nat := 8192

/-- Saves a store to a file. That a file cannot take the octets shows at the end if they are few
enough to be gathered until then. -/
def save (store : Store) (path : Path) (format : Format) : m (Except SaveError Unit) := do
  match ← Files.createFile path with
  | .error error => return .error (.create path error)
  | .ok () =>
    let octets := (Snapshot.ofStore store).encode format
    match ← Files.extendFile path octets with
    | .error error =>
      let early := gathered < octets.length
      return .error (.write path (if early then format.unwritable error else .flush error))
    | .ok () => return .ok ()

def ofSource (path : Path) (format : Format) (source : Source) : Except LoadError Store :=
  match Snapshot.read source format with
  | .error error => .error (.read path error)
  | .ok snapshot =>
    match snapshot.toStore with
    | .error error => .error (.invalid path error)
    | .ok store => .ok store

def load (path : Path) (format : Format) : m (Except LoadError Store) := do
  match ← Files.openFile path with
  | .error error => return .error (.opening path error)
  | .ok source => return ofSource path format source

end Store

end AccessTrace
