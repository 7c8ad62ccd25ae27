import AccessTrace.Json.Scan
import AccessTrace.Json.Text

/-!
Passing over a value that nobody asked for. Only its grammar is looked at: texts may hold any
octets, surrogates need not be paired, and values may be nested to any depth.
-/

namespace AccessTrace.Json

namespace Skip

inductive Frame where
  | array
  | object
  deriving DecidableEq, Repr

def Frame.closing : Frame → UInt8
  | .array => octet ']'
  | .object => octet '}'

def text : List UInt8 → Except TokenFault (Unit × List UInt8)
  | [] => .error .ended
  | b :: rest =>
    if b = octet '"' then .ok ((), rest)
    else if b = octet '\\' then
      match rest with
      | [] => .error .ended
      | c :: rest =>
        if c = octet 'u' then
          match rest with
          | d₁ :: d₂ :: d₃ :: d₄ :: rest =>
            if [d₁, d₂, d₃, d₄].all fun d => (hexValue? d).isSome then text rest
            else .error .malformed
          | _ => .error .ended
        else if (letterEscape? c).isSome then text rest
        else .error .malformed
    else if b < 0x20 then .error .malformed
    else text rest

def someDigits : Scan Unit := do
  match ← Scan.next with
  | some b => if isDigit b then let _ ← Scan.takeWhile isDigit else throw .malformed
  | none => throw .malformed

def exponent : Scan Unit := do
  let b ← Scan.peek
  if b = some (octet 'e') ∨ b = some (octet 'E') then
    Scan.skip
    let sign ← Scan.peek
    if sign = some (octet '+') ∨ sign = some (octet '-') then Scan.skip
    someDigits

/-- Passes over a number after its sign. A number that ends too early is malformed. -/
def number : Scan Unit := do
  if (← Scan.peek) = some (octet '0') then
    Scan.skip
    if (← Scan.peek).any isDigit then throw .malformed
  else someDigits
  if (← Scan.peek) = some (octet '.') then
    Scan.skip
    someDigits
  exponent

inductive Place where
  | before
  | after
  | opened
  deriving DecidableEq, Repr

def toValue : Frame → Scan Unit
  | .array => return ()
  | .object => do
    match ← Scan.token with
    | none => throw .truncated
    | some b =>
      if b = octet '"' then
        Scan.skip
        Scan.take text
        match ← Scan.token with
        | none => throw .truncated
        | some c => if c = octet ':' then Scan.skip else throw .malformed
      else throw .malformed

def scalar : Scan (Option Frame) := do
  match ← Scan.token with
  | none => throw .truncated
  | some b =>
    if b = octet 'n' then Scan.exactly [octet 'n', octet 'u', octet 'l', octet 'l']; return none
    else if b = octet 't' then
      Scan.exactly [octet 't', octet 'r', octet 'u', octet 'e']; return none
    else if b = octet 'f' then
      Scan.exactly [octet 'f', octet 'a', octet 'l', octet 's', octet 'e']; return none
    else if b = octet '-' then Scan.skip; number; return none
    else if isDigit b then number; return none
    else if b = octet '"' then Scan.skip; Scan.take text; return none
    else if b = octet '[' then Scan.skip; return some .array
    else if b = octet '{' then Scan.skip; return some .object
    else throw .malformed

/-- Passes on until all open frames are closed. Of three steps one takes an octet, so thrice the
number of octets bounds the steps. -/
def walk : Nat → Place → List Frame → Scan Unit
  | 0, _, _ => throw .truncated
  | _ + 1, .after, [] => return ()
  | steps + 1, .before, frames => do
    match ← scalar with
    | none => walk steps .after frames
    | some frame => walk steps .opened (frame :: frames)
  | _ + 1, .opened, [] => return ()
  | steps + 1, .opened, frame :: frames => do
    match ← Scan.token with
    | none => throw .truncated
    | some b =>
      if b = frame.closing then
        Scan.skip
        walk steps .after frames
      else
        toValue frame
        walk steps .before (frame :: frames)
  | steps + 1, .after, frame :: frames => do
    match ← Scan.token with
    | none => throw .truncated
    | some b =>
      if b = frame.closing then
        Scan.skip
        walk steps .after frames
      else if b = octet ',' then
        Scan.skip
        toValue frame
        walk steps .before (frame :: frames)
      else throw .malformed

def value : Scan Unit := do
  let source ← get
  walk (3 * source.octets.length + 3) .before []

end Skip

end AccessTrace.Json
