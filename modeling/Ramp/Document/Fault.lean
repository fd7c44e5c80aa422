import Ramp.Text.Quoted
import Ramp.Document.Basic

/-!
# `Document.Fault` — what can be wrong with a document

Either the text is wrong, or it is right and does not fit what is wanted.

## Contents
- `Misfit`: why a value does not fit, with its wording `Misfit.message`.
- `Fault`: a wrong text or a misfit.
- `Document.describe`: how a found value is named in a misfit.
-/

namespace Ramp

/-- Why a right text does not fit what is wanted. -/
inductive Misfit where
  /-- A value of another kind. -/
  | kind (found expected : String)
  /-- An integer outside the range. -/
  | range (found : Int) (expected : String)
  /-- A name that is none of the choices. -/
  | choice (found : String) (choices : List String)
  /-- A field given twice. -/
  | repeated (field : String)
  /-- Neither a name nor a table with one name in it. -/
  | choiceForm
  /-- A table without a name in it. -/
  | choiceNone
  /-- A table with several names in it. -/
  | choiceSeveral
  /-- Something beside the name that is no table. -/
  | choiceExtra (found : String)
  /-- A table beside the name that is not empty. -/
  | choiceTable
  /-- Several tables beside the name. -/
  | choiceTables
  /-- Any other reason, by its wording. -/
  | stated (message : String)
  deriving DecidableEq, Repr

namespace Misfit

/-- The list of choices as it is shown: two are joined by a word, more are listed. -/
def showChoices (choices : List String) : String :=
  let quoted := choices.map fun choice => "`" ++ choice ++ "`"
  match quoted with
  | [one] => one
  | [one, other] => one ++ " or " ++ other
  | _ => "one of " ++ String.intercalate ", " quoted

/-- The wording of a misfit. -/
def message : Misfit → String
  | .kind found expected => s!"invalid type: {found}, expected {expected}"
  | .range found expected => s!"invalid value: integer `{found.repr}`, expected {expected}"
  | .choice found choices => s!"unknown variant `{found}`, expected {showChoices choices}"
  | .repeated field => s!"duplicate field `{field}`"
  | .choiceForm => "wanted string or table"
  | .choiceNone => "wanted exactly 1 element, found 0 elements"
  | .choiceSeveral => "wanted exactly 1 element, more than 1 element"
  | .choiceExtra found => s!"expected table, found {found}"
  | .choiceTable => "expected empty table"
  | .choiceTables => "expected empty array"
  | .stated message => message

end Misfit

/-- What is wrong with a document. -/
inductive Fault where
  /-- The text is not of its language. -/
  | malformed
  /-- The text is right but does not fit. -/
  | misfit (why : Misfit)
  deriving DecidableEq, Repr

namespace Document

/-- How a value is named where another one was wanted; a wrong text has no name. -/
def describe : Document → Except Fault String
  | .broken | .real none | .string none => .error .malformed
  | .null => .ok "null"
  | .boolean value => .ok s!"boolean `{value}`"
  | .integer value => .ok s!"integer `{value.repr}`"
  | .real (some shown) => .ok s!"floating point `{shown}`"
  | .string (some text) => .ok ("string " ++ Text.quote text)
  | .array _ | .tables _ => .ok "sequence"
  | .table _ | .date => .ok "map"

/-- The fault of a value that stands where something else was wanted. -/
def unexpected (found : Document) (expected : String) : Fault :=
  match found.describe with
  | .ok shown => .misfit (.kind shown expected)
  | .error fault => fault

end Document

end Ramp
