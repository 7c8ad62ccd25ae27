import AccessTrace.Config.Basic
import AccessTrace.Json.Shape

/-!
Configurations as documents: an object in which every field may be left out and no others may
occur, or an array of the fields in order, which may end early.
-/

namespace AccessTrace

open Json

inductive ConfigReadError where
  | unreadable (error : JsonError)
  | invalid (error : ConfigError)

def ConfigReadError.chain : ConfigReadError → List Link
  | .unreadable error => [.text "Unable to parse config", .json error]
  | .invalid error => error.chain

namespace Config

structure Draft where
  windowSize : Option Cycle := none
  stepCycles : Option Cycle := none
  histogramBins : Option UInt64 := none
  periodSeconds : Option Float := none
  maxLines : Option (Option UInt64) := none

def Draft.config (draft : Draft) : Config :=
  let default : Config := {}
  { windowSize := draft.windowSize.getD default.windowSize
    stepCycles := draft.stepCycles.getD default.stepCycles
    histogramBins := (draft.histogramBins.map UInt64.toNat).getD default.histogramBins
    periodSeconds := draft.periodSeconds.getD default.periodSeconds
    maxLines := (draft.maxLines.map fun lines => lines.map UInt64.toNat).getD default.maxLines }

def word : Scan UInt64 := Scan.wholeBelow UInt64.size

def member (key : String) (draft : Draft) : Scan Draft := do
  if key = "window_size" then
    return { draft with windowSize := ← Scan.once draft.windowSize word }
  else if key = "step_cycles" then
    return { draft with stepCycles := ← Scan.once draft.stepCycles word }
  else if key = "histogram_bins" then
    return { draft with histogramBins := ← Scan.once draft.histogramBins word }
  else if key = "debug_output_period_secs" then
    return { draft with periodSeconds := ← Scan.once draft.periodSeconds Scan.float }
  else if key = "max_lines" then
    return { draft with maxLines := ← Scan.once draft.maxLines (Scan.optional word) }
  else throw .mismatch

def inOrder : Scan Draft := do
  let default : Config := {}
  let windowSize ← Scan.itemOr true default.windowSize word
  let stepCycles ← Scan.itemOr false default.stepCycles word
  let histogramBins ← Scan.itemOr false default.histogramBins.toUInt64 word
  let periodSeconds ← Scan.itemOr false default.periodSeconds Scan.float
  let maxLines ← Scan.itemOr false none (Scan.optional word)
  return ⟨some windowSize, some stepCycles, some histogramBins, some periodSeconds, some maxLines⟩

def scan : Scan Config := do
  return (← Scan.structured inOrder (Scan.fields member {})).config

def read (source : Source) : Except ConfigReadError Config :=
  match Scan.document scan source with
  | .error error => .error (.unreadable error)
  | .ok config =>
    match config.validate with
    | .ok _ => .ok config
    | .error error => .error (.invalid error)

end Config

end AccessTrace
