import Ramp.Failure
import Ramp.Metrics.Registry

/-!
# `Metrics.Ledger` — metrics that are registered when they are first used

The four metrics of the program are registered, in their order, when one of them is used for the
first time. If a name is taken by then, the metrics before it stay registered, that use fails, and
so does every later one.

## Contents
- `Stage`: how far the metrics of the program have come.
- `Ledger`: the registry, the stage and the values.
- `Ledger.ensure`, which every use of a metric goes through, with `ensure_ok_iff`; the uses
  `recordFill` and `recordTiming`.
- `Ledger.countRun`: what a run counts, which has made the metrics ready before.
- `Ledger.register`: a counter of someone else.
-/

namespace Ramp

/-- How far the metrics of the program have come. -/
inductive Stage where
  /-- None of them has been used. -/
  | untouched
  /-- All of them are registered. -/
  | ready
  /-- They could not all be registered. -/
  | spoilt
  deriving DecidableEq, Repr

/-- All metrics of a process. -/
structure Ledger where
  registry : Registry := .empty
  stage : Stage := .untouched
  counters : Counters := {}
  deriving DecidableEq, Repr

namespace Ledger

/-- Registers metrics one after the other, up to the first one whose name is taken, and says whether
    all of them are registered. -/
def registerAll : List Metric → Registry → Registry × Bool
  | [], registry => (registry, true)
  | metric :: rest, registry =>
    match registry.register? (.ofMetric metric) with
    | some registry => registerAll rest registry
    | none => (registry, false)

/-- The message of the first use that fails. -/
def refusedMessage : String := "Failed to initialize metrics: Metrics(AlreadyReg)"

/-- The message of every later use that fails. -/
def spoiltMessage : String := "Lazy instance has previously been poisoned"

/-- Makes the metrics of the program ready for use. -/
def ensure (ledger : Ledger) : Ledger × Except Failure Unit :=
  match ledger.stage with
  | .ready => (ledger, .ok ())
  | .spoilt => (ledger, .error (.abort spoiltMessage))
  | .untouched =>
    match registerAll Metric.all ledger.registry with
    | (registry, true) => ({ ledger with registry, stage := .ready }, .ok ())
    | (registry, false) =>
      ({ ledger with registry, stage := .spoilt }, .error (.abort refusedMessage))

/-- Once the metrics are ready, a use of them is nothing but the use. -/
theorem ensure_of_ready {ledger : Ledger} (h : ledger.stage = .ready) :
    ledger.ensure = (ledger, .ok ()) := by
  rw [ensure, h]

/-- Once the metrics are spoilt, they stay as they are and every use fails. -/
theorem ensure_of_spoilt {ledger : Ledger} (h : ledger.stage = .spoilt) :
    ledger.ensure = (ledger, .error (.abort spoiltMessage)) := by
  rw [ensure, h]

/-- Getting ready never changes a value. -/
@[simp] theorem counters_ensure (ledger : Ledger) :
    ledger.ensure.1.counters = ledger.counters := by
  unfold ensure
  split
  · rfl
  · rfl
  · split <;> rfl

/-- A ledger with a change made to the values, provided the metrics are ready for use. -/
def use (change : Counters → Counters) (ledger : Ledger) : Ledger × Except Failure Unit :=
  match ledger.ensure with
  | (ledger, .ok ()) => ({ ledger with counters := change ledger.counters }, .ok ())
  | (ledger, .error why) => (ledger, .error why)

/-- Counts a fill that was meant to write so many elements. -/
def recordFill (elements : UInt64) (succeeded : Bool) : Ledger → Ledger × Except Failure Unit :=
  use (Counters.countFill elements succeeded)

/-- Counts a duration. -/
def recordTiming : Ledger → Ledger × Except Failure Unit :=
  use Counters.countTiming

/-- Counts a fill of a run, and its duration. -/
def countRun (succeeded : Bool) (length : UInt64) (ledger : Ledger) : Ledger :=
  { ledger with counters := ledger.counters.countTiming.countFill length succeeded }

/-- Registers a counter of someone else. Only a counter that can be made is meant here: its name is
    a right one, and its help text is not empty. -/
def register (name help : String) (ledger : Ledger) : Ledger × Except Failure Unit :=
  match ledger.registry.register? (.ofCounter name help) with
  | some registry => ({ ledger with registry }, .ok ())
  | none =>
    (ledger, .error (.error (.metrics "Duplicate metrics collector registration attempted")))

end Ledger

end Ramp
