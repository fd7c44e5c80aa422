import Ramp.Log.Level

/-!
# `Log.Field` — named values

Events carry named values, and so do spans: stretches of time within which events occur.

## Contents
- `FieldValue` and `Fields`.
- `Span`.
-/

namespace Ramp.Log

/-- A value that an event or a span carries. -/
inductive FieldValue where
  | number (n : Int)
  /-- A number that is never negative. -/
  | count (n : Nat)
  | text (s : String)
  deriving DecidableEq, Repr

/-- Named values. -/
abbrev Fields := List (String × FieldValue)

/-- A stretch of time within which events occur. -/
structure Span where
  name : String
  /-- The part of the program that the span comes from. -/
  target : String
  level : Level
  fields : Fields
  deriving DecidableEq, Repr

end Ramp.Log
