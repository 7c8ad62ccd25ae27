import AccessTrace.Decimal.Fixed
import AccessTrace.Failure

namespace AccessTrace

structure Period where
  seconds : Nat
  nanoseconds : Nat
  deriving DecidableEq, Repr, Inhabited

inductive PeriodError where
  | negative
  | tooLarge
  deriving DecidableEq, Repr

def PeriodError.message : PeriodError → String
  | .negative => "cannot convert float seconds to Duration: value is negative"
  | .tooLarge => "cannot convert float seconds to Duration: value is either too big or NaN"

namespace Period

/-- The span of a number of seconds. Negative zero is zero. -/
def ofSeconds (x : Float) : Except PeriodError Period :=
  match Decimal.Binary64.ofFloat x with
  | .nan => .error .tooLarge
  | .infinite negative => .error (if negative then .negative else .tooLarge)
  | .finite negative mantissa exponent =>
    if negative ∧ mantissa ≠ 0 then .error .negative
    else
      let nanoseconds := Decimal.scaled mantissa exponent 9
      let seconds := nanoseconds / 1000000000
      if seconds < UInt64.size then .ok ⟨seconds, nanoseconds % 1000000000⟩ else .error .tooLarge

/-- The span is over before another line of a trace has been taken, which needs some microseconds.
No longer span is taken to be over before the end of a trace. -/
def isOverByNextLine (period : Period) : Bool :=
  period.seconds == 0 && period.nanoseconds ≤ 10000

/-- What is repeated with this period is due at once, unless the period is longer than the clock
can count back. -/
def isDueAtStart (period : Period) : Bool :=
  period.seconds ≤ 0x8000000000000000

end Period

end AccessTrace
