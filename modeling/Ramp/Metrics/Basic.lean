import Ramp.Release

/-!
# `Metrics.Basic` — what the program counts

## Contents
- `Metric`: the four metrics of the program in the order in which they are registered, with their
  names, helps and kinds.
- `Counters`: their values, which come round after `2 ^ 64 - 1`, and what an outcome adds to them.
-/

namespace Ramp

/-- A metric of the program. -/
inductive Metric where
  /-- Fills that succeeded. -/
  | fills
  /-- Fills that failed. -/
  | failures
  /-- Elements written by fills that succeeded. -/
  | elements
  /-- How long fills took. -/
  | duration
  deriving DecidableEq, Repr

/-- How the values of a metric are gathered. -/
inductive MetricKind where
  | counter
  | histogram
  deriving DecidableEq, Repr

/-- How a kind is written. -/
def MetricKind.name : MetricKind → String
  | .counter => "counter"
  | .histogram => "histogram"

namespace Metric

/-- All metrics, in the order in which they are registered. -/
def all : List Metric :=
  [.fills, .failures, .elements, .duration]

/-- The name under which a metric is registered. -/
def name : Metric → String
  | .fills => programName ++ "_fills_total"
  | .failures => programName ++ "_fill_failures_total"
  | .elements => programName ++ "_elements_written_total"
  | .duration => programName ++ "_fill_duration_seconds"

/-- What a metric counts, in words. -/
def help : Metric → String
  | .fills => "Total number of successful sequence fills"
  | .failures => "Total number of sequence fills that failed"
  | .elements => "Total number of sequence elements written"
  | .duration => "Duration of sequence fills in seconds"

/-- The kind of a metric. -/
def kind : Metric → MetricKind
  | .duration => .histogram
  | .fills | .failures | .elements => .counter

theorem mem_all (m : Metric) : m ∈ all := by
  cases m <;> decide

theorem name_inj {m n : Metric} (h : m.name = n.name) : m = n := by
  revert h
  cases m <;> cases n <;> decide

end Metric

/-- The values of the metrics. Of durations only their number is kept. -/
@[ext] structure Counters where
  fills : UInt64 := 0
  failures : UInt64 := 0
  elements : UInt64 := 0
  timings : UInt64 := 0
  deriving DecidableEq, Repr

namespace Counters

/-- The value of a metric. -/
def get (counters : Counters) : Metric → UInt64
  | .fills => counters.fills
  | .failures => counters.failures
  | .elements => counters.elements
  | .duration => counters.timings

/-- Counts a fill that was meant to write so many elements. -/
def countFill (elements : UInt64) (succeeded : Bool) (counters : Counters) : Counters :=
  if succeeded then
    { counters with fills := counters.fills + 1, elements := counters.elements + elements }
  else { counters with failures := counters.failures + 1 }

/-- Counts a duration. -/
def countTiming (counters : Counters) : Counters :=
  { counters with timings := counters.timings + 1 }

end Counters

end Ramp
