/-!
Double-precision numbers taken apart: a sign, a whole number and a power of two. All decimal texts
are computed from these parts in exact arithmetic, here those with a fixed count of places.
-/

namespace AccessTrace.Decimal

/-- A double-precision number by its parts; a finite one is `± mantissa · 2 ^ exponent`. -/
inductive Binary64 where
  | finite (negative : Bool) (mantissa : Nat) (exponent : Int)
  | infinite (negative : Bool)
  | nan
  deriving DecidableEq, Repr

def leadingOne : Nat := 0x10000000000000

def Binary64.ofBits (bits : UInt64) : Binary64 :=
  let negative := 0x8000000000000000 ≤ bits.toNat
  let biased : Nat := bits.toNat / leadingOne % 0x800
  let fraction : Nat := bits.toNat % leadingOne
  if biased = 2047 then if fraction = 0 then .infinite negative else .nan
  else if biased = 0 then .finite negative fraction (-1074)
  else .finite negative (leadingOne + fraction) ((biased : Int) - 1075)

def Binary64.ofFloat (x : Float) : Binary64 :=
  .ofBits x.toBits

def fraction (mantissa : Nat) (exponent : Int) : Nat × Nat :=
  (mantissa * Nat.pow 2 exponent.toNat, Nat.pow 2 (-exponent).toNat)

def roundHalfEven (num den : Nat) : Nat :=
  let floor := num / den
  let rest := num % den
  if 2 * rest < den then floor
  else if den < 2 * rest then floor + 1
  else if floor % 2 = 0 then floor else floor + 1

/-- The value of a number in units of `10 ^ -places`, rounded. -/
def scaled (mantissa : Nat) (exponent : Int) (places : Nat) : Nat :=
  let (num, den) := fraction mantissa exponent
  roundHalfEven (num * Nat.pow 10 places) den

def hundredths (n : Nat) : String :=
  toString (n / 100) ++ "." ++ toString (n % 100 / 10) ++ toString (n % 10)

def twoPlaces (x : Float) : String :=
  match Binary64.ofFloat x with
  | .finite negative mantissa exponent =>
    (if negative then "-" else "") ++ hundredths (scaled mantissa exponent 2)
  | .infinite negative => if negative then "-inf" else "inf"
  | .nan => "NaN"

end AccessTrace.Decimal
