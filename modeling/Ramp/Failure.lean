import Ramp.Error

/-!
# `Failure` — how an action can fail

## Contents
- `Failure`: an error to report, or the end of what is being done, with a message.
-/

namespace Ramp

/-- How an action can fail. -/
inductive Failure where
  /-- An error, which is reported. -/
  | error (e : Error)
  /-- A condition under which nothing sensible can be done. -/
  | abort (message : String)
  deriving DecidableEq, Repr

end Ramp
