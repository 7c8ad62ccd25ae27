/-!
Failures and how they are told. A failure is told as a chain of links, from what was attempted to
what went wrong. The last link may belong to the operating system or to a file format.
-/

namespace AccessTrace

inductive OsError where
  | notFound
  | notADirectory
  | isADirectory
  | nameTooLong
  | tooManyLinks
  | noSpace
  | noDevice
  | permissionDenied
  | invalidInput
  | other
  deriving DecidableEq, Repr

def OsError.message : OsError → String
  | .notFound => "No such file or directory (os error 2)"
  | .notADirectory => "Not a directory (os error 20)"
  | .isADirectory => "Is a directory (os error 21)"
  | .nameTooLong => "File name too long (os error 36)"
  | .tooManyLinks => "Too many levels of symbolic links (os error 40)"
  | .noSpace => "No space left on device (os error 28)"
  | .noDevice => "No such device or address (os error 6)"
  | .permissionDenied => "Permission denied (os error 13)"
  | .invalidInput => "file name contained an unexpected NUL byte"
  | .other => "other error"

/-- Why octets are not a document: its grammar is broken, it is well formed but says something
else than asked for, it ends too early, or it cannot be read to its end. -/
inductive JsonError where
  | malformed
  | mismatch
  | truncated
  | unreadable (cause : OsError)
  deriving DecidableEq, Repr

def JsonError.message : JsonError → String
  | .malformed => "invalid syntax"
  | .mismatch => "invalid value"
  | .truncated => "unexpected end of input"
  | .unreadable cause => cause.message

inductive BinaryError where
  | unreadable
  | unexpectedVariant
  | invalidIntegerType
  | invalidText
  deriving DecidableEq, Repr

def BinaryError.message : BinaryError → String
  | .unreadable => "input ends too early or cannot be read"
  | .unexpectedVariant => "unexpected tag"
  | .invalidIntegerType => "unexpected width of a number"
  | .invalidText => "text is not valid"

inductive Link where
  | text (message : String)
  | os (error : OsError)
  | json (error : JsonError)
  | binary (error : BinaryError)
  deriving DecidableEq, Repr

def Link.message : Link → String
  | .text message => message
  | .os error => error.message
  | .json error => error.message
  | .binary error => error.message

inductive Trap where
  | multiplyOverflow
  | capacityOverflow
  deriving DecidableEq, Repr

def Trap.message : Trap → String
  | .multiplyOverflow => "attempt to multiply with overflow"
  | .capacityOverflow => "capacity overflow"

/-! ### Where octets come from, and where they go -/

/-- Octets, and the error that reading past the last of them meets; no error means that the source
ends there. -/
structure Source where
  octets : List UInt8
  failure : Option OsError := none
  deriving DecidableEq, Repr

def Source.failingAfter (octets : List UInt8) (count : Nat) : Source :=
  { octets := octets.take count
    failure := if count ≤ octets.length then some .other else none }

structure Target where
  limit : Option Nat := none
  flushFails : Bool := false
  deriving DecidableEq, Repr

def Target.takes (target : Target) (count : Nat) : Bool :=
  match target.limit with
  | some limit => count ≤ limit
  | none => true

end AccessTrace
