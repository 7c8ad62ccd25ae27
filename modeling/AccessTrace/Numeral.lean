/-!
Whole numbers as a trace writes them: in base sixteen, eight, two or ten, told apart by what they
begin with. A number has to fit in sixty-four bits.
-/

namespace AccessTrace

inductive NumeralError where
  | empty
  | invalidDigit
  | tooLarge
  deriving DecidableEq, Repr

def NumeralError.message : NumeralError → String
  | .empty => "cannot parse integer from empty string"
  | .invalidDigit => "invalid digit found in string"
  | .tooLarge => "number too large to fit in target type"

namespace Numeral

def digit? (base : Nat) (c : Char) : Option Nat :=
  let value :=
    if '0' ≤ c ∧ c ≤ '9' then some (c.toNat - '0'.toNat)
    else if 'a' ≤ c ∧ c ≤ 'z' then some (c.toNat - 'a'.toNat + 10)
    else if 'A' ≤ c ∧ c ≤ 'Z' then some (c.toNat - 'A'.toNat + 10)
    else none
  value.filter (· < base)

/-- Reads digits after a value read so far. Of a wrong digit and an overflow the one further left
is reported. -/
def digits (base : Nat) (value : Nat) : List Char → Except NumeralError UInt64
  | [] => .ok (UInt64.ofNat value)
  | c :: rest =>
    match digit? base c with
    | none => .error .invalidDigit
    | some d =>
      if value * base + d < UInt64.size then digits base (value * base + d) rest
      else .error .tooLarge

def inBase (base : Nat) (text : List Char) : Except NumeralError UInt64 :=
  match text with
  | [] => .error .empty
  | ['+'] => .error .invalidDigit
  | '+' :: rest => digits base 0 rest
  | text => digits base 0 text

def base (text : List Char) : Nat × List Char :=
  match text with
  | '0' :: 'x' :: rest => (16, rest)
  | '0' :: 'X' :: rest => (16, rest)
  | '0' :: 'o' :: rest => (8, rest)
  | '0' :: 'O' :: rest => (8, rest)
  | '0' :: 'b' :: rest => (2, rest)
  | '0' :: 'B' :: rest => (2, rest)
  | text => (10, text)

def parse (text : List Char) : Except NumeralError UInt64 :=
  inBase (base text).1 (base text).2

def decimal (text : List Char) : Except NumeralError UInt64 :=
  inBase 10 text

end Numeral

end AccessTrace
