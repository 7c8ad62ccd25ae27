import AccessTrace.Access
import AccessTrace.Numeral
import AccessTrace.Text.Blank
import AccessTrace.Text.WordChar

/-!
What a line of a trace says. Three kinds of line count: one that sets the clock, one that starts an
access and one that ends an access. A line is told by a marker among its words, and a clock marker
wins over the others; a line with no marker says nothing.
-/

namespace AccessTrace

open Text

inductive TraceLine where
  | clock (cycle : Cycle)
  | newAccess (id : AccessId) (kind : AccessKind) (address : Address)
  | endAccess (id : AccessId)
  | other
  deriving DecidableEq, Repr

inductive LineError where
  | missingField (field : String)
  | invalidName (name : String)
  | invalidKind (kind : String)
  | invalidAddress (address : String) (reason : NumeralError)
  | invalidCycle (cycle : String)
  deriving DecidableEq, Repr

def LineError.message : LineError → String
  | .missingField field => s!"Missing field `{field}=`"
  | .invalidName name => s!"Invalid access name {quoted name}, expected `A-<id>`"
  | .invalidKind kind => s!"Invalid access type {quoted kind}"
  | .invalidAddress address _ => s!"Invalid address {quoted address}"
  | .invalidCycle cycle => s!"Invalid cycle {quoted cycle} after clock marker"

def TraceLine.label : TraceLine → String
  | .clock cycle => carrying "Clock" (toString cycle)
  | .newAccess id kind address =>
    fields "NewAccess" [("id", id.name), ("kind", kind.label), ("addr", toString address)]
  | .endAccess id => fields "EndAccess" [("id", id.name)]
  | .other => "Other"

namespace TraceLine

def clockMarker : List Char := "clk".toList

def newAccessMarker : List Char := "new_access".toList

def endAccessMarker : List Char := "end_access".toList

def after? (name text : List Char) : Option (List Char) :=
  if name.isPrefixOf text then some (text.drop name.length) else none

def value? (name word : List Char) : Option (List Char) :=
  after? (name ++ ['=']) word

/-- The text behind the first clock marker: what follows its equals sign, or the next word if it
stands alone. -/
def clockText? : List (List Char) → Option (List Char)
  | [] => none
  | word :: rest =>
    if word = clockMarker then some (rest.head?.getD [])
    else match value? clockMarker word with
      | some text => some text
      | none => clockText? rest

def unquoted (text : List Char) : List Char :=
  ((text.dropWhile (· = '"')).reverse.dropWhile (· = '"')).reverse

/-- The value of a field, without quotes: the first word `name=value` counts. -/
def field (name : String) (words : List (List Char)) : Except LineError (List Char) :=
  match words.findSome? (value? name.toList) with
  | some value => .ok (unquoted value)
  | none => .error (.missingField name)

def readId (name : List Char) : Except LineError AccessId :=
  let invalid := .error (.invalidName (String.ofList name))
  match after? ['A', '-'] name with
  | none => invalid
  | some digits =>
    if digits.all Char.isDigit then
      match Numeral.decimal digits with
      | .ok n => .ok ⟨n⟩
      | .error _ => invalid
    else invalid

def readKind (kind : List Char) : Except LineError AccessKind :=
  if !kind.isEmpty && kind.all isWordChar then .ok (.ofName (String.ofList kind))
  else .error (.invalidKind (String.ofList kind))

def readAddress (address : List Char) : Except LineError Address :=
  match Numeral.parse address with
  | .ok n => .ok n
  | .error reason => .error (.invalidAddress (String.ofList address) reason)

/-- A cycle is the digits that a text begins with; what follows them does not count. -/
def readCycle (text : List Char) : Except LineError Cycle :=
  match Numeral.decimal (text.takeWhile Char.isDigit) with
  | .ok n => .ok n
  | .error _ => .error (.invalidCycle (String.ofList text))

def marked (marker : List Char) (words : List (List Char)) : Bool :=
  words.any marker.isSuffixOf

def ofWords (words : List (List Char)) : Except LineError TraceLine :=
  match clockText? words with
  | some text => do return .clock (← readCycle text)
  | none =>
    if marked newAccessMarker words then do
      let id ← readId (← field "name" words)
      let kind ← readKind (← field "type" words)
      let address ← readAddress (← field "addr" words)
      return .newAccess id kind address
    else if marked endAccessMarker words then do
      return .endAccess (← readId (← field "name" words))
    else .ok .other

def parse (line : String) : Except LineError TraceLine :=
  ofWords (words line.toList)

end TraceLine

end AccessTrace
