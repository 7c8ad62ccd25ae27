import AccessTrace.Store.Basic
import AccessTrace.Event

/-!
Bounds of a store, and the accesses in flight during a window of cycles. A window can be found by
the starts of the accesses or by their ends; whichever covers fewer cycles is walked.
-/

namespace AccessTrace

structure Bounds where
  minAddress : Address
  maxAddress : Address
  maxCycle : Cycle
  deriving DecidableEq, Repr

/-- The accesses in flight after `lowerCycle` and before `upperCycle` that pass the filter, by
their addresses. -/
structure Window where
  lowerCycle : Cycle
  upperCycle : Cycle
  filter : KindFilter
  addresses : List Address
  deriving DecidableEq, Repr

def latest : Option Cycle → Option Cycle → Option Cycle
  | some a, some b => some (max a b)
  | some a, none => some a
  | none, b => b

def monus (a b : Cycle) : Cycle :=
  if a < b then 0 else a - b

namespace Store

/-- The bounds; there are none without accesses. The last cycle is the latest end of a closed
access or the latest start of any. -/
def bounds (store : Store) : Option Bounds := do
  let range ← store.addresses
  let maxCycle ← latest (store.byEnd.last?.map Mark.cycle) (store.byStart.last?.map Mark.cycle)
  return ⟨range.lowest, range.highest, maxCycle⟩

def startedBefore (store : Store) (upper : Cycle) : List AccessId :=
  (store.byStart.below ⟨upper, ⟨0⟩⟩).map Mark.id

def unendedAfter (store : Store) (lower : Cycle) : List AccessId :=
  (store.byEnd.above ⟨lower, ⟨0xFFFFFFFFFFFFFFFF⟩⟩).map Mark.id ++ store.unended.toList

def candidates (store : Store) (lower upper maxCycle : Cycle) : List AccessId :=
  if upper ≤ maxCycle - lower then store.startedBefore upper else store.unendedAfter lower

/-- The window of at most `size` cycles that ends at `upper`; there is none past the last cycle. -/
def window? (store : Store) (upper size : Cycle) (filter : KindFilter) :
    Option Window := do
  let bounds ← store.bounds
  if bounds.maxCycle < upper then none
  else
    let lower := monus upper size
    let accesses := (store.candidates lower upper bounds.maxCycle).filterMap store.get?
    let inFlight := accesses.filter fun access =>
      access.overlaps lower upper && filter.accepts access.kind
    return ⟨lower, upper, filter, inFlight.map Access.address⟩

def windowEvents (store : Store) (upper : Cycle) : List Event :=
  match store.bounds with
  | some bounds =>
    if bounds.maxCycle < upper then
      [{ level := .debug, component := .store, message := "Window is past the latest cycle"
         fields := [("upper_cycle", toString upper), ("max_cycle", toString bounds.maxCycle)] }]
    else []
  | none => []

end Store

end AccessTrace
