import AccessTrace.Access
import AccessTrace.Decimal.Shortest
import AccessTrace.Period
import AccessTrace.Text.Label

namespace AccessTrace

structure Config where
  windowSize : Cycle := 10000
  stepCycles : Cycle := 1000
  histogramBins : Nat := 20
  periodSeconds : Float := 1
  maxLines : Option Nat := none

inductive ConfigError where
  | noBins
  | period (seconds : Float) (reason : PeriodError)

def ConfigError.chain : ConfigError → List Link
  | .noBins => [.text "Histogram must have at least 1 bin"]
  | .period seconds reason =>
    let value := Decimal.number .plain seconds
    [.text s!"Invalid debug output period: {value}s", .text reason.message]

namespace Config

def period (config : Config) : Except ConfigError Period :=
  match Period.ofSeconds config.periodSeconds with
  | .ok period => .ok period
  | .error reason => .error (.period config.periodSeconds reason)

def validate (config : Config) : Except ConfigError Period :=
  if config.histogramBins = 0 then .error .noBins else config.period

def label (config : Config) : String :=
  Text.fields "Config"
    [("window_size", toString config.windowSize), ("step_cycles", toString config.stepCycles),
      ("histogram_bins", toString config.histogramBins),
      ("debug_output_period_secs", Decimal.number .marked config.periodSeconds),
      ("max_lines", Text.optional toString config.maxLines)]

end Config

end AccessTrace
