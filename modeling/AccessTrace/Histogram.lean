import AccessTrace.Access
import AccessTrace.Failure

namespace AccessTrace

structure Histogram where
  start : Float
  binSize : Float
  counts : Array Nat

structure Bin where
  start : Float
  last : Float
  count : Nat

namespace Histogram

def maxBins : Nat := 0x1000000000000000

def extremes : List Address → Option (Address × Address)
  | [] => none
  | address :: rest =>
    some (rest.foldl (fun range a => (min range.1 a, max range.2 a)) (address, address))

/-- The range that the bins span: that of the addresses, or one of width one around a single
address. -/
def span (lowest highest : Address) : Float × Float :=
  if lowest = highest then (lowest.toFloat - 0.5, highest.toFloat + 0.5)
  else (lowest.toFloat, highest.toFloat)

/-- The bin of an address. What would lie past the last bin is in the last bin. -/
def binIndex (start binSize : Float) (bins : Nat) (address : Address) : Nat :=
  min ((address.toFloat - start) / binSize).toUInt64.toNat (bins - 1)

def tally (counts : Array Nat) (index : Nat) : Array Nat :=
  counts.modify index (· + 1)

def ofAddresses (addresses : List Address) (bins : Nat) : Except Trap (Option Histogram) :=
  if bins = 0 then .ok none
  else match extremes addresses with
    | none => .ok none
    | some (lowest, highest) =>
      if maxBins ≤ bins then .error .capacityOverflow
      else
        let (start, last) := span lowest highest
        let binSize := (last - start) / bins.toUInt64.toFloat
        let indices := addresses.map (binIndex start binSize bins)
        .ok (some { start, binSize, counts := indices.foldl tally (Array.replicate bins 0) })

def total (h : Histogram) : Nat := h.counts.foldl (· + ·) 0

def maxCount (h : Histogram) : Nat := h.counts.foldl max 0

def bins (h : Histogram) : List Bin :=
  h.counts.toList.zipIdx.map fun (count, index) =>
    { start := h.start + index.toUInt64.toFloat * h.binSize
      last := h.start + (index + 1).toUInt64.toFloat * h.binSize
      count }

end Histogram

end AccessTrace
