import Ramp.Error

/-!
# `Config.Choice` — types and formats by free text

## Contents
- `ElementType.ofText`, `OutputFormat.ofText`, `LogFormat.ofText`: the member that a text names, or
  the error that quotes the text; each with its equation, `ofText_eq`.
-/

namespace Ramp

/-- The element type that a text names. -/
def ElementType.ofText (text : String) : Except Error ElementType :=
  match Named.ofText? text with
  | some ty => .ok ty
  | none => .error (.invalidInput (.elementType text))

theorem ElementType.ofText_eq (text : String) :
    ofText text = (Named.ofText? text).elim (.error (.invalidInput (.elementType text))) .ok := by
  unfold ofText
  cases Named.ofText? (α := ElementType) text <;> rfl

/-- The output format that a text names. -/
def OutputFormat.ofText (text : String) : Except Error OutputFormat :=
  match Named.ofText? text with
  | some format => .ok format
  | none => .error (.config (.outputFormat text))

theorem OutputFormat.ofText_eq (text : String) :
    ofText text = (Named.ofText? text).elim (.error (.config (.outputFormat text))) .ok := by
  unfold ofText
  cases Named.ofText? (α := OutputFormat) text <;> rfl

/-- The log format that a text names. -/
def LogFormat.ofText (text : String) : Except Error LogFormat :=
  match Named.ofText? text with
  | some format => .ok format
  | none => .error (.config (.logFormat text))

theorem LogFormat.ofText_eq (text : String) :
    ofText text = (Named.ofText? text).elim (.error (.config (.logFormat text))) .ok := by
  unfold ofText
  cases Named.ofText? (α := LogFormat) text <;> rfl

end Ramp
