import AccessTrace.Access
import AccessTrace.Trace.Line

namespace AccessTrace

inductive LineEffect where
  | malformed (error : LineError)
  | clockAdvanced (cycle : Cycle)
  | clockIgnored (cycle : Cycle)
  | added (id : AccessId)
  | duplicate (id : AccessId)
  | ended (id : AccessId) (outcome : CloseOutcome)
  | nothing
  deriving DecidableEq, Repr

structure Summary where
  lines : Nat := 0
  added : Nat := 0
  closed : Nat := 0
  duplicates : Nat := 0
  unknownEnds : Nat := 0
  repeatedEnds : Nat := 0
  malformed : Nat := 0
  stoppedEarly : Bool := false
  deriving DecidableEq, Repr, Inhabited

namespace Summary

def countEffect (summary : Summary) : LineEffect → Summary
  | .malformed _ => { summary with malformed := summary.malformed + 1 }
  | .added _ => { summary with added := summary.added + 1 }
  | .duplicate _ => { summary with duplicates := summary.duplicates + 1 }
  | .ended _ .closed => { summary with closed := summary.closed + 1 }
  | .ended _ .alreadyClosed => { summary with repeatedEnds := summary.repeatedEnds + 1 }
  | .ended _ .unknown => { summary with unknownEnds := summary.unknownEnds + 1 }
  | .clockAdvanced _ | .clockIgnored _ | .nothing => summary

def countLine (summary : Summary) (effect : LineEffect) : Summary :=
  ({ summary with lines := summary.lines + 1 }).countEffect effect

def describe (s : Summary) : String :=
  let read := s!"{s.lines} lines ({s.malformed} skipped): " ++
    s!"{s.added} accesses added, {s.closed} closed"
  let ignored :=
    if s.duplicates ≠ 0 ∨ s.unknownEnds ≠ 0 ∨ s.repeatedEnds ≠ 0 then
      s!" (ignored {s.duplicates} duplicate, {s.unknownEnds} unknown and " ++
        s!"{s.repeatedEnds} already ended accesses)"
    else ""
  read ++ ignored ++ if s.stoppedEarly then ", stopped early" else ""

end Summary

end AccessTrace
