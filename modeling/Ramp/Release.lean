/-!
# `Release` — what the program is called

## Contents
- `programName`, `version`, and `banner`, which holds both.
-/

namespace Ramp

/-- The name under which the program is called. -/
def programName : String := "seqfill"

/-- The version of the program. -/
def version : String := "0.1.0"

/-- The name and the version on one line. -/
def banner : String :=
  programName ++ " " ++ version

end Ramp
