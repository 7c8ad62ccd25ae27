import AccessTrace.Decimal.Fixed

/-!
The shortest decimal that reads back as a given double-precision number. The reals that round to
the number form an interval; grids of one, two, three and more significant digits are tried in
turn, and the first grid with a point in the interval gives the digits.
-/

namespace AccessTrace.Decimal

structure GridPoint where
  digits : Nat
  exponent : Int
  deriving DecidableEq, Repr

/-- The reals that round to one number, in units of `unit.1 / unit.2`: from `low` to `high`, with
the number itself at `value`. The ends belong to it if the mantissa is even. -/
structure Neighbourhood where
  low : Nat
  value : Nat
  high : Nat
  unit : Nat × Nat
  closed : Bool

/-- The neighbourhood of `mantissa · 2 ^ exponent` in quarters of its last place. Below a power of
two the neighbours are closer, except at the least exponent. -/
def Neighbourhood.of (mantissa : Nat) (exponent : Int) : Neighbourhood :=
  let below := if mantissa = leadingOne ∧ -1074 < exponent then 1 else 2
  { low := 4 * mantissa - below
    value := 4 * mantissa
    high := 4 * mantissa + 2
    unit := fraction 1 (exponent - 2)
    closed := mantissa % 2 = 0 }

def Neighbourhood.holds (n : Neighbourhood) (d : GridPoint) : Bool :=
  let num := d.digits * Nat.pow 10 d.exponent.toNat * n.unit.2
  let den := Nat.pow 10 (-d.exponent).toNat * n.unit.1
  if n.closed then n.low * den ≤ num && num ≤ n.high * den
  else n.low * den < num && num < n.high * den

/-- The two points around the value on the grid of multiples of `10 ^ exponent`, and whether the
upper one is at least as near. -/
def Neighbourhood.around (n : Neighbourhood) (exponent : Int) : GridPoint × GridPoint × Bool :=
  let num := n.value * n.unit.1 * Nat.pow 10 (-exponent).toNat
  let den := n.unit.2 * Nat.pow 10 exponent.toNat
  (⟨num / den, exponent⟩, ⟨num / den + 1, exponent⟩, den ≤ 2 * (num % den))

def Neighbourhood.onGrid? (n : Neighbourhood) (exponent : Int) : Option GridPoint :=
  let (lower, upper, upperNearer) := n.around exponent
  match n.holds lower, n.holds upper with
  | true, true => some (if upperNearer then upper else lower)
  | true, false => some lower
  | false, true => some upper
  | false, false => none

/-- The number of digits before the point, or minus the number of zeros after it: the least `e`
with `value < 10 ^ e`. -/
def Neighbourhood.magnitude (n : Neighbourhood) : Int :=
  let num := n.value * n.unit.1
  if n.unit.2 ≤ num then (Nat.toDigits 10 (num / n.unit.2)).length
  else 1 - ((Nat.toDigits 10 ((n.unit.2 - 1) / num)).length : Int)

/-- The first grid with a hit, from `count` digits on. Seventeen digits always have one. -/
def Neighbourhood.search (n : Neighbourhood) (magnitude : Int) (count : Nat) :
    Nat → GridPoint
  | 0 => (n.around (magnitude - count)).1
  | fuel + 1 =>
    match n.onGrid? (magnitude - count) with
    | some d => d
    | none => n.search magnitude (count + 1) fuel

def GridPoint.trimmed (d : GridPoint) : Nat → GridPoint
  | 0 => d
  | fuel + 1 =>
    if d.digits % 10 = 0 ∧ d.digits ≠ 0 then
      GridPoint.trimmed ⟨d.digits / 10, d.exponent + 1⟩ fuel
    else d

def shortest (mantissa : Nat) (exponent : Int) : GridPoint :=
  let n := Neighbourhood.of mantissa exponent
  (n.search n.magnitude 1 17).trimmed 18

def positional (d : GridPoint) : String :=
  let digits := Nat.toDigits 10 d.digits
  if 0 ≤ d.exponent then String.ofList (digits ++ List.replicate d.exponent.toNat '0')
  else
    let places := (-d.exponent).toNat
    let padded := List.replicate (places + 1 - digits.length) '0' ++ digits
    let before := padded.length - places
    String.ofList (padded.take before ++ '.' :: padded.drop before)

def scientific (d : GridPoint) : String :=
  let digits := Nat.toDigits 10 d.digits
  let power := d.exponent + (digits.length - 1 : Nat)
  let tail := match digits.drop 1 with
    | [] => ""
    | more => "." ++ String.ofList more
  String.ofList (digits.take 1) ++ tail ++ "e" ++ toString power

inductive Style where
  | plain
  | marked
  deriving DecidableEq, Repr

/-- A point in the given style. In the marked style whole numbers end in `.0`, and numbers from
`10 ^ 16` on or below `10 ^ -4` have a power of ten. -/
def GridPoint.write (d : GridPoint) : Style → String
  | .plain => positional d
  | .marked =>
    let power := d.exponent + ((Nat.toDigits 10 d.digits).length - 1 : Nat)
    if 16 ≤ power ∨ power < -4 then scientific d
    else if 0 ≤ d.exponent then positional d ++ ".0"
    else positional d

def number (style : Style) (x : Float) : String :=
  match Binary64.ofFloat x with
  | .nan => "NaN"
  | .infinite negative => if negative then "-inf" else "inf"
  | .finite negative mantissa exponent =>
    let sign := if negative then "-" else ""
    if mantissa = 0 then sign ++ (match style with | .plain => "0" | .marked => "0.0")
    else sign ++ (shortest mantissa exponent).write style

end AccessTrace.Decimal
