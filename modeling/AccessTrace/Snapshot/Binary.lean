import AccessTrace.Snapshot.Basic
import AccessTrace.Failure
import AccessTrace.Text.Utf8

/-!
Snapshots as compact records. A number up to 250 is one octet; a greater one is an octet that tells
its width and then its octets, the least significant first. A missing value, a present one and the
kind of an access are told by a tag, and a list or a text starts with its length.
-/

namespace AccessTrace.Binary

def tag16 : UInt8 := 251
def tag32 : UInt8 := 252
def tag64 : UInt8 := 253

def littleEndian : Nat → Nat → List UInt8
  | 0, _ => []
  | width + 1, n => UInt8.ofNat n :: littleEndian width (n / 256)

def writeNumber (n : Nat) : List UInt8 :=
  if n < 251 then [UInt8.ofNat n]
  else if n < UInt16.size then tag16 :: littleEndian 2 n
  else if n < UInt32.size then tag32 :: littleEndian 4 n
  else tag64 :: littleEndian 8 n

def writeWord (w : UInt64) : List UInt8 := writeNumber w.toNat

def writeOptional : Option UInt64 → List UInt8
  | none => [0]
  | some w => 1 :: writeWord w

def writeText (text : String) : List UInt8 :=
  writeNumber (Text.utf8 text).length ++ Text.utf8 text

def writeKind : AccessKind → List UInt8
  | .load => writeNumber 0
  | .store => writeNumber 1
  | .other name => writeNumber 2 ++ writeText name

def writeAccess (access : Access) : List UInt8 :=
  writeWord access.id.number ++ writeKind access.kind ++ writeWord access.address ++
    writeWord access.start ++ writeOptional access.stop

def write (snapshot : Snapshot) : List UInt8 :=
  writeNumber snapshot.version.toNat ++ writeOptional snapshot.horizon ++
    writeNumber snapshot.accesses.length ++ snapshot.accesses.flatMap writeAccess

abbrev Read := StateT (List UInt8) (Except BinaryError)

namespace Read

def octet : Read UInt8 := do
  match ← get with
  | [] => throw .unreadable
  | b :: rest =>
    set rest
    return b

def octets (count : Nat) : Read (List UInt8) := do
  let all ← get
  if count ≤ all.length then
    set (all.drop count)
    return all.take count
  else throw .unreadable

def fromLittleEndian : List UInt8 → Nat
  | [] => 0
  | b :: rest => b.toNat + 256 * fromLittleEndian rest

/-- Takes a number that is at most `width` octets wide. It need not be in its least width. -/
def number (width : Nat) : Read Nat := do
  let b ← octet
  if b < tag16 then return b.toNat
  else if b = tag16 then return fromLittleEndian (← octets 2)
  else if b = tag32 then return fromLittleEndian (← octets 4)
  else if b = tag64 ∧ 8 ≤ width then return fromLittleEndian (← octets 8)
  else throw .invalidIntegerType

def word : Read UInt64 := return UInt64.ofNat (← number 8)

def optional : Read (Option UInt64) := do
  let b ← octet
  if b = 0 then return none
  else if b = 1 then return some (← word)
  else throw .unexpectedVariant

def text : Read String := do
  match Text.ofUtf8? (← octets (← number 8)) with
  | some text => return text
  | none => throw .invalidText

def kind : Read AccessKind := do
  let n ← number 4
  if n = 0 then return .load
  else if n = 1 then return .store
  else if n = 2 then return .other (← text)
  else throw .unexpectedVariant

def access : Read Access := do
  let id ← word
  let kind ← kind
  let address ← word
  let start ← word
  let stop ← optional
  return { id := ⟨id⟩, kind, address, start, stop }

def items {α : Type} (item : Read α) : Nat → Read (List α)
  | 0 => return []
  | count + 1 => do
    let a ← item
    return a :: (← items item count)

def snapshot : Read Snapshot := do
  let version ← number 4
  let horizon ← optional
  let accesses ← items access (← number 8)
  return ⟨UInt32.ofNat version, horizon, accesses⟩

end Read

/-- The snapshot in a source. What follows it is not looked at. -/
def read (source : Source) : Except BinaryError Snapshot :=
  Read.snapshot.run' source.octets

end AccessTrace.Binary
