import Ramp.Text.Normal
import Ramp.Named

/-!
# `Log.Level` — how much an event matters

## Contents
- `Level`, from the most verbose to the most severe, with its names and its rank.
- `Level.title`: the name as events show it.
-/

namespace Ramp.Log

/-- How much an event matters. -/
inductive Level where
  | trace
  | debug
  | info
  | warn
  | error
  deriving DecidableEq, Repr

instance : Named Level where
  all := [.trace, .debug, .info, .warn, .error]
  name
    | .trace => "trace"
    | .debug => "debug"
    | .info => "info"
    | .warn => "warn"
    | .error => "error"
  mem_all a := by cases a <;> decide
  name_inj a b h := by revert h; cases a <;> cases b <;> decide
  normalize_name a := by cases a <;> rfl

namespace Level

/-- The rank of a level: 1 for the most severe one, 5 for the most verbose one. -/
def verbosity : Level → Nat
  | .error => 1
  | .warn => 2
  | .info => 3
  | .debug => 4
  | .trace => 5

/-- The name of a level as events show it. -/
def title : Level → String
  | .trace => "TRACE"
  | .debug => "DEBUG"
  | .info => "INFO"
  | .warn => "WARN"
  | .error => "ERROR"

end Level

end Ramp.Log
