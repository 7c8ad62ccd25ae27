import AccessTrace.Text.Label

namespace AccessTrace

abbrev Cycle := UInt64

abbrev Address := UInt64

structure AccessId where
  number : UInt64
  deriving DecidableEq, Repr, Inhabited

def AccessId.name (id : AccessId) : String :=
  s!"A-{id.number}"

/-- What an access does. Kinds other than loads and stores are kept by their name. -/
inductive AccessKind where
  | load
  | store
  | other (name : String)
  deriving DecidableEq, Repr, Inhabited

def AccessKind.ofName (name : String) : AccessKind :=
  if name = "load" then .load
  else if name = "store" then .store
  else .other name

def AccessKind.name : AccessKind → String
  | .load => "load"
  | .store => "store"
  | .other name => name

def AccessKind.place (layout : Text.Layout) (kind : AccessKind) : String :=
  layout.place kind.name

def AccessKind.label : AccessKind → String
  | .load => "Load"
  | .store => "Store"
  | .other name => Text.carrying "Other" (Text.quoted name)

inductive KindFilter where
  | all
  | load
  | store
  deriving DecidableEq, Repr, Inhabited

def KindFilter.accepts : KindFilter → AccessKind → Bool
  | .all, _ => true
  | .load, kind => kind == .load
  | .store, kind => kind == .store

def KindFilter.label : KindFilter → String
  | .all => "All"
  | .load => "Load"
  | .store => "Store"

/-- One access. It is open until the cycle of its end is known. -/
structure Access where
  id : AccessId
  kind : AccessKind
  address : Address
  start : Cycle
  stop : Option Cycle := none
  deriving DecidableEq, Repr, Inhabited

namespace Access

def isOpen (access : Access) : Bool :=
  access.stop.isNone

def close (access : Access) (cycle : Cycle) : Access :=
  { access with stop := some cycle }

/-- The cycles from start to end of a closed access; none of them if it ends before it starts. -/
def duration (access : Access) : Option Cycle :=
  access.stop.map fun last =>
    if last < access.start then 0 else last - access.start

/-- The access is in flight at some time after `lower` and before `upper`. One that is open never
ends. -/
def overlaps (access : Access) (lower upper : Cycle) : Bool :=
  (match access.stop with
    | some last => lower < last
    | none => true) && access.start < upper

def label (access : Access) : String :=
  Text.fields "AccessRecord"
    [("id", access.id.name), ("kind", access.kind.label), ("address", toString access.address),
      ("cycle_start", toString access.start),
      ("cycle_end", Text.optional toString access.stop)]

end Access

inductive CloseOutcome where
  | closed
  | alreadyClosed
  | unknown
  deriving DecidableEq, Repr

def CloseOutcome.label : CloseOutcome → String
  | .closed => "Closed"
  | .alreadyClosed => "AlreadyClosed"
  | .unknown => "Unknown"

/-- A recorder of accesses. It is told of every start and end of an access and of the clock; of
starts it tells whether the id was new, of ends what became of them. -/
class Recorder (σ : Type) where
  insertIfNew : σ → Access → Bool × σ
  close : σ → AccessId → Cycle → CloseOutcome × σ
  observe : σ → Cycle → σ

end AccessTrace
