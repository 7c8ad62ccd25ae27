import AccessTrace.Decimal.Fixed
import AccessTrace.Histogram
import AccessTrace.Failure
import AccessTrace.Store.Window
import AccessTrace.Text.Label

namespace AccessTrace

structure PrintedLine where
  text : String
  bar : Nat := 0
  deriving DecidableEq, Repr

def PrintedLine.size (line : PrintedLine) : Nat :=
  line.text.utf8ByteSize + line.bar + 1

def PrintedLine.print (line : PrintedLine) : String :=
  line.text ++ String.ofList (List.replicate line.bar '#')

structure Printout where
  lines : List PrintedLine
  trap : Option Trap := none
  deriving DecidableEq, Repr

inductive PrintError where
  | refused (error : OsError)
  | crashed (trap : Trap)
  deriving DecidableEq, Repr

namespace Printout

def text (printout : Printout) : String :=
  String.join (printout.lines.map fun line => line.print ++ "\n")

def size (printout : Printout) : Nat :=
  printout.lines.foldl (fun sum line => sum + line.size) 0

/-- Prints to a target. What the target does not take is noticed before the crash that would come
after it. -/
def write (printout : Printout) (target : Target) : Except PrintError String :=
  if !target.takes printout.size then .error (.refused .other)
  else match printout.trap with
    | some trap => .error (.crashed trap)
    | none => .ok printout.text

def cons (line : PrintedLine) (printout : Printout) : Printout :=
  { printout with lines := line :: printout.lines }

end Printout

namespace Chart

def maxLength : Nat := 0x7FFFFFFFFFFFFFFF

/-- The length of a bar. The product with the width has to fit in a word, and the bar in memory. -/
def barLength (width maxCount count : Nat) : Except Trap Nat :=
  let product := count * width
  if UInt64.size ≤ product then .error .multiplyOverflow
  else
    let length := product / max maxCount 1
    if maxLength < length then .error .capacityOverflow else .ok length

def row (width maxCount : Nat) (bin : Bin) : Except Trap PrintedLine := do
  let bar ← barLength width maxCount bin.count
  let start := Text.hexWord bin.start.toUInt64
  let last := Text.hexWord bin.last.toUInt64
  let count := Text.alignRight 8 ' ' (toString bin.count)
  return { text := s!"{start} - {last} | {count} | ", bar }

def rows (width maxCount : Nat) : List Bin → Printout
  | [] => { lines := [] }
  | bin :: rest =>
    match row width maxCount bin with
    | .ok line => (rows width maxCount rest).cons line
    | .error trap => { lines := [], trap := some trap }

def heading (window : Window) (bounds : Bounds) : List PrintedLine :=
  let low := Text.hex bounds.minAddress.toNat
  let high := Text.hex bounds.maxAddress.toNat
  let label := window.filter.label
  [{ text := s!"Mem Access Frequency (Cycle {window.lowerCycle} - {window.upperCycle}), " ++
      s!"{window.addresses.length} {label} accesses" },
    { text := s!"Addresses: {low} - {high}" }]

def sizeLine (binSize : Float) : PrintedLine :=
  let size := Decimal.twoPlaces (binSize / 1024)
  { text := s!"Bin Size is {size} KB" }

def draw (window : Window) (histogram : Option Histogram) (bounds : Bounds) (width : Nat) :
    Printout :=
  match histogram with
  | none => { lines := heading window bounds ++ [{ text := "No accesses in window" }] }
  | some h =>
    let drawn := rows width h.maxCount h.bins
    { drawn with lines := heading window bounds ++ sizeLine h.binSize :: drawn.lines }

end Chart

end AccessTrace
