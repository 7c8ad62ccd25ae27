import AccessTrace.Json.Scan

/-!
Numbers of a document. A number is taken in by its parts and then valued: a whole number that fits
in a word is exact, any other is a double-precision number. That one is found by collecting digits
while they fit in a word and scaling once by a power of ten, so it need not be the nearest one.
-/

namespace AccessTrace.Json

inductive Number where
  | whole (n : UInt64)
  | real (x : Float)

/-- Digits collected into a word, and the power of ten that goes with them. -/
structure Significand where
  value : Nat
  exponent : Int
  deriving DecidableEq, Repr

def digitValue (b : UInt8) : Nat := b.toNat - 0x30

namespace Significand

/-- Collects the digits of a whole number. Once one does not fit, it and all after it only raise
the power of ten. -/
def whole (value : Nat) : List UInt8 → Significand
  | [] => ⟨value, 0⟩
  | b :: rest =>
    let more := value * 10 + digitValue b
    if more < UInt64.size then whole more rest else ⟨value, (rest.length + 1 : Nat)⟩

/-- Collects the digits behind the point. Once one does not fit, it and all after it are left
out. -/
def fraction (s : Significand) : List UInt8 → Significand
  | [] => s
  | b :: rest =>
    let more := s.value * 10 + digitValue b
    if more < UInt64.size then fraction ⟨more, s.exponent - 1⟩ rest else s

def tenTo (n : Nat) : Float := Float.ofScientific 1 false n

/-- Scales by a power of ten; `none` if the result is too large. A small power is divided by, in
steps of the greatest one. -/
def scale (x : Float) (exponent : Int) : Option Float :=
  if exponent.natAbs ≤ 308 then
    if 0 ≤ exponent then
      let scaled := x * tenTo exponent.natAbs
      if scaled.isInf then none else some scaled
    else some (x / tenTo exponent.natAbs)
  else if x == 0 then some x
  else if h : 0 ≤ exponent then none
  else scale (x / tenTo 308) (exponent + 308)
termination_by (-exponent).toNat
decreasing_by omega

def toFloat? (s : Significand) : Option Float :=
  scale (UInt64.ofNat s.value).toFloat s.exponent

end Significand

structure Exponent where
  negative : Bool
  size : Option Nat
  deriving DecidableEq, Repr

namespace Number

def exponentSize (value : Nat) : List UInt8 → Option Nat
  | [] => some value
  | b :: rest =>
    let more := value * 10 + digitValue b
    if more < 2 ^ 31 then exponentSize more rest else none

def wholePart : Scan (List UInt8) := do
  match ← Scan.next with
  | none => throw .truncated
  | some b =>
    if b = octet '0' then
      match ← Scan.peek with
      | some c => if isDigit c then throw .malformed else return [b]
      | none => return [b]
    else if isDigit b then return b :: (← Scan.takeWhile isDigit)
    else throw .malformed

def fractionPart : Scan (List UInt8) := do
  let digits ← Scan.takeWhile isDigit
  if digits.isEmpty then
    match ← Scan.peek with
    | some _ => throw .malformed
    | none => throw .truncated
  else return digits

/-- Takes what stands behind the exponent letter. A great positive exponent of anything but zero is
refused as soon as it is too great. -/
def exponentPart (isZero : Bool) : Scan Exponent := do
  let sign ← Scan.peek
  let negative := sign = some (octet '-')
  if negative ∨ sign = some (octet '+') then Scan.skip
  match ← Scan.next with
  | none => throw .truncated
  | some b =>
    if isDigit b then
      let size := exponentSize 0 (b :: (← Scan.takeWhile isDigit))
      if size.isNone && !isZero && !negative then throw .malformed
      let _ ← Scan.peek
      return { negative, size }
    else throw .malformed

def signed (negative : Bool) (x : Float) : Number :=
  .real (if negative then -x else x)

def withExponent (negative : Bool) (s : Significand) (e : Exponent) : Scan Number :=
  match e.size with
  | none => return signed negative 0
  | some size =>
    let exponent := if e.negative then s.exponent - size else s.exponent + size
    match ({ s with exponent } : Significand).toFloat? with
    | some x => return signed negative x
    | none => throw .malformed

def finishReal (negative : Bool) (s : Significand) : Scan Number := do
  let b ← Scan.peek
  if b = some (octet 'e') ∨ b = some (octet 'E') then
    Scan.skip
    let e ← exponentPart (s.value == 0)
    withExponent negative s e
  else withExponent negative s ⟨false, some 0⟩

def ofWhole (negative : Bool) (s : Significand) : Number :=
  if negative then signed true (UInt64.ofNat s.value).toFloat
  else .whole (UInt64.ofNat s.value)

def afterSign (negative : Bool) : Scan Number := do
  let s := Significand.whole 0 (← wholePart)
  let b ← Scan.peek
  if b = some (octet '.') then
    Scan.skip
    finishReal negative (s.fraction (← fractionPart))
  else if b = some (octet 'e') ∨ b = some (octet 'E') ∨ s.exponent ≠ 0 then
    finishReal negative s
  else return ofWhole negative s

def scan : Scan Number := do
  if (← Scan.peek) = some (octet '-') then
    Scan.skip
    afterSign true
  else afterSign false

end Number

end AccessTrace.Json
