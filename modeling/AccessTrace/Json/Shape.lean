import AccessTrace.Json.Number
import AccessTrace.Json.Text

/-!
Structures, lists and plain values of a document. A structure is an object with its fields by name
or an array with its fields in order. Whoever asks for one shape and meets another gets a mismatch,
but only after the value that was met has been taken in as far as it is a plain one.
-/

namespace AccessTrace.Json

namespace Scan

def literal (b : UInt8) : Scan Unit :=
  if b = octet 'n' then exactly [octet 'n', octet 'u', octet 'l', octet 'l']
  else if b = octet 't' then exactly [octet 't', octet 'r', octet 'u', octet 'e']
  else exactly [octet 'f', octet 'a', octet 'l', octet 's', octet 'e']

def refuse {α : Type} (b : UInt8) : Scan α := do
  if b = octet 'n' ∨ b = octet 't' ∨ b = octet 'f' then
    literal b
    throw .mismatch
  else if b = octet '-' ∨ isDigit b then
    let _ ← Number.scan
    throw .mismatch
  else if b = octet '"' then
    skip
    let _ ← take readText
    throw .mismatch
  else if b = octet '[' ∨ b = octet '{' then throw .mismatch
  else throw .malformed

def needToken : Scan UInt8 := do
  match ← token with
  | some b => return b
  | none => throw .truncated

def number : Scan Number := do
  let b ← needToken
  if b = octet '-' ∨ isDigit b then Number.scan else refuse b

def wholeBelow (limit : Nat) : Scan UInt64 := do
  match ← number with
  | .whole n => if n.toNat < limit then return n else throw .mismatch
  | .real _ => throw .mismatch

def float : Scan Float := do
  match ← number with
  | .whole n => return n.toFloat
  | .real x => return x

def text : Scan String := do
  let b ← needToken
  if b = octet '"' then
    skip
    take readText
  else refuse b

def optional {α : Type} (value : Scan α) : Scan (Option α) := do
  if (← token) = some (octet 'n') then
    literal (octet 'n')
    return none
  else return some (← value)

def null : Scan Unit := do
  let b ← needToken
  if b = octet 'n' then literal b else refuse b

def hasItem (first : Bool) : Scan Bool := do
  let b ← needToken
  if b = octet ']' then return false
  else if first then return true
  else if b = octet ',' then
    skip
    if (← needToken) = octet ']' then throw .malformed else return true
  else throw .malformed

def item {α : Type} (first : Bool) (value : Scan α) : Scan α := do
  if ← hasItem first then value else throw .mismatch

def itemOr {α : Type} (first : Bool) (absent : α) (value : Scan α) : Scan α := do
  if ← hasItem first then value else return absent

/-- Takes the items of an array up to its end. Every item takes an octet, so the number of octets
bounds the items. -/
def items {α : Type} (value : Scan α) : Nat → Bool → Scan (List α)
  | 0, _ => throw .truncated
  | steps + 1, first => do
    if ← hasItem first then
      let a ← value
      return a :: (← items value steps false)
    else return []

def endArray : Scan Unit := do
  if (← needToken) = octet ']' then skip else throw .malformed

def list {α : Type} (value : Scan α) : Scan (List α) := do
  let b ← needToken
  if b = octet '[' then
    skip
    let source ← get
    let all ← items value (source.octets.length + 1) true
    endArray
    return all
  else refuse b

def hasMember (first : Bool) : Scan Bool := do
  let b ← needToken
  if b = octet '}' then return false
  else
    let key ← if first then pure b
      else if b = octet ',' then do
        skip
        needToken
      else throw .malformed
    if key = octet '"' then return true else throw .malformed

def colon : Scan Unit := do
  if (← needToken) = octet ':' then skip else throw .malformed

def members {σ : Type} (member : String → σ → Scan σ) : Nat → Bool → σ → Scan σ
  | 0, _, _ => throw .truncated
  | steps + 1, first, state => do
    if ← hasMember first then
      let key ← text
      members member steps false (← member key state)
    else return state

def once {α : Type} (known : Option α) (value : Scan α) : Scan (Option α) := do
  if known.isSome then throw .mismatch
  colon
  return some (← value)

def required {α : Type} : Option α → Scan α
  | some a => return a
  | none => throw .mismatch

def structured {α : Type} (inOrder byName : Scan α) : Scan α := do
  let b ← needToken
  if b = octet '[' then
    skip
    let a ← inOrder
    endArray
    return a
  else if b = octet '{' then
    skip
    let a ← byName
    skip
    return a
  else refuse b

def fields {σ : Type} (member : String → σ → Scan σ) (state : σ) : Scan σ := do
  let source ← get
  members member (source.octets.length + 1) true state

end Scan

end AccessTrace.Json
