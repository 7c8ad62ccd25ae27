import AccessTrace.Decimal.Fixed
import AccessTrace.Store.Window

namespace AccessTrace

structure RunningMean where
  count : Nat := 0
  mean : Float := 0
  squares : Float := 0

namespace RunningMean

def add (r : RunningMean) (x : Float) : RunningMean :=
  let count := r.count + 1
  let n := count.toUInt64.toFloat
  let delta := (x - r.mean) / n
  { count, mean := r.mean + delta, squares := r.squares + delta * delta * n * (n - 1) }

def error (r : RunningMean) : Float :=
  if r.count < 2 then 0
  else
    let n := r.count.toUInt64.toFloat
    (r.squares / (n - 1) / n).sqrt

end RunningMean

structure Statistics where
  total : Nat
  unended : Nat
  loads : Nat
  stores : Nat
  durationMean : Float
  durationError : Float

namespace Store

def count (store : Store) (filter : KindFilter) : Nat :=
  store.toList.countP fun access => filter.accepts access.kind

def durations (store : Store) : List Cycle :=
  store.toList.filterMap Access.duration

def statistics (store : Store) : Statistics :=
  let durations := (store.durations.map UInt64.toFloat).foldl RunningMean.add {}
  { total := store.accesses.size
    unended := store.unended.size
    loads := store.count .load
    stores := store.count .store
    durationMean := durations.mean
    durationError := durations.error }

def describe (store : Store) : String :=
  let s := store.statistics
  let mean := Decimal.twoPlaces s.durationMean
  let error := Decimal.twoPlaces s.durationError
  let figures := s!"{s.total} accesses ({s.unended} open, {s.loads} loads, {s.stores} stores), " ++
    s!"duration: {mean} ± {error} cycles"
  match store.bounds with
  | some bounds =>
    let low := Text.hex bounds.minAddress.toNat
    let high := Text.hex bounds.maxAddress.toNat
    figures ++ s!", addresses: {low}..={high}, max cycle: {bounds.maxCycle}"
  | none => figures

end Store

end AccessTrace
