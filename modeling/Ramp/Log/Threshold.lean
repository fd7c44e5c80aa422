import Ramp.Decimal.Numeral
import Ramp.Log.Level

/-!
# `Log.Threshold` — how much is let through

## Contents
- `Threshold` with its rank, its name, and `Threshold.admits`.
- `Threshold.ofText?`: reads a rank or a name.
-/

namespace Ramp.Log

/-- How much is let through. -/
inductive Threshold where
  | off
  /-- Events of this level and of more severe ones. -/
  | upTo (level : Level)
  deriving DecidableEq, Repr

namespace Threshold

/-- The rank of the most verbose level that is let through. -/
def verbosity : Threshold → Nat
  | .off => 0
  | .upTo level => level.verbosity

/-- Whether an event of a level is let through. -/
def admits (threshold : Threshold) (level : Level) : Bool :=
  level.verbosity ≤ threshold.verbosity

/-- How a threshold is written. -/
def name : Threshold → String
  | .off => "off"
  | .upTo level => Named.name level

/-- All thresholds by their ranks. -/
def all : List Threshold :=
  [.off, .upTo .error, .upTo .warn, .upTo .info, .upTo .debug, .upTo .trace]

/-- The threshold that a text gives by its rank, or by its name in any case. -/
def ofText? (s : String) : Option Threshold :=
  let ranked := match Numeral.readNat (UInt64.size - 1) s.toList with
    | .ok n => all[n]?
    | .error _ => none
  ranked.or (all.find? fun threshold => threshold.name == Text.lower s)

/-- The more verbose one of two thresholds. -/
def sup (a b : Threshold) : Threshold :=
  if a.verbosity ≤ b.verbosity then b else a

end Threshold

end Ramp.Log
