import AccessTrace.Failure

/-!
Reading a JSON document from its first octet on. What is read is never looked at again, so of two
faults of a document the one further left is found.
-/

namespace AccessTrace.Json

abbrev Scan := StateT Source (Except JsonError)

def octet (c : Char) : UInt8 := c.toNat.toUInt8

def isBlank (b : UInt8) : Bool :=
  b == 0x20 || b == 0x0A || b == 0x09 || b == 0x0D

def isDigit (b : UInt8) : Bool :=
  0x30 ≤ b && b ≤ 0x39

inductive TokenFault where
  | ended
  | malformed
  deriving DecidableEq, Repr

namespace Scan

def peek : Scan (Option UInt8) := do
  let source ← get
  match source.octets, source.failure with
  | b :: _, _ => return some b
  | [], none => return none
  | [], some cause => throw (.unreadable cause)

def skip : Scan Unit :=
  modify fun source => { source with octets := source.octets.drop 1 }

def next : Scan (Option UInt8) := do
  let b ← peek
  skip
  return b

/-- The next octet after blanks, which stays. -/
def token : Scan (Option UInt8) := do
  modify fun source => { source with octets := source.octets.dropWhile isBlank }
  peek

def takeWhile (holds : UInt8 → Bool) : Scan (List UInt8) := do
  let source ← get
  set { source with octets := source.octets.dropWhile holds }
  return source.octets.takeWhile holds

def take {α : Type} (read : List UInt8 → Except TokenFault (α × List UInt8)) : Scan α := do
  let source ← get
  match read source.octets with
  | .ok (a, rest) =>
    set { source with octets := rest }
    return a
  | .error .malformed => throw .malformed
  | .error .ended =>
    match source.failure with
    | some cause => throw (.unreadable cause)
    | none => throw .truncated

def exactly : List UInt8 → Scan Unit
  | [] => return ()
  | b :: rest => do
    match ← next with
    | none => throw .truncated
    | some b' => if b' = b then exactly rest else throw .malformed

def finish : Scan Unit := do
  match ← token with
  | none => return ()
  | some _ => throw .malformed

def document {α : Type} (scan : Scan α) (source : Source) : Except JsonError α := do
  StateT.run' (do
    let a ← scan
    finish
    return a) source

end Scan

end AccessTrace.Json
