import Ramp.Config.Document
import Ramp.Json.Print
import Ramp.Log.Event

/-!
# `Log.Layout` — how events are written

There are three layouts. All of them would begin with the time of the event, which is left out
here.

## Contents
- `compactLine`, `prettyLine`, `jsonLine`: the three layouts.
- `Entry.line`: the line for an entry.
-/

namespace Ramp.Log

namespace FieldValue

/-- The value as a word. -/
def shown : FieldValue → String
  | .number n => n.repr
  | .count n => n.repr
  | .text s => s

/-- The value as a document. -/
def toDocument : FieldValue → Document
  | .number n => .integer n
  | .count n => .integer n
  | .text s => .string (some s)

end FieldValue

/-- The level, and the target and message of an event, with something between them. -/
def heading (event : Event) (between : String) : String :=
  event.level.title ++ " " ++ between ++ event.target ++ ": " ++ event.message

/-- Everything on one line, the particulars of the run at its end. -/
def compactLine (entry : Entry) : String :=
  let shown (fields : Fields) : String :=
    String.join (fields.map fun field => " " ++ field.1 ++ "=" ++ field.2.shown)
  match entry.run with
  | none => heading entry.event "" ++ shown entry.event.fields
  | some run =>
    heading entry.event (spanName ++ ": ") ++ shown entry.event.fields ++ shown (spanFields run)

/-- The first line of an event that is written on several lines, which does not show the run. -/
def prettyLine (entry : Entry) : String :=
  let shown := entry.event.fields.map fun field => ", " ++ field.1 ++ ": " ++ field.2.shown
  heading entry.event "" ++ String.join shown

/-- Named values as the members of a document. -/
def Fields.members (fields : Fields) : List (String × Document) :=
  fields.map fun field => (field.1, field.2.toDocument)

/-- A JSON object. -/
def jsonLine (entry : Entry) : String :=
  let text (s : String) : Document := .string (some s)
  let event := entry.event
  let inRun : List (String × Document) := match entry.run with
    | none => []
    | some run =>
      let span := Config.namedTable (("name", text spanName) :: Fields.members (spanFields run))
      [("span", span), ("spans", .array [span])]
  Json.write <| Config.namedTable <|
    [("level", text event.level.title),
      ("fields", Config.namedTable <|
        ("message", text event.message) :: Fields.members event.fields),
      ("target", text event.target)] ++ inRun

/-- The line for an entry in a format. -/
def Entry.line (entry : Entry) : LogFormat → String
  | .compact => compactLine entry
  | .pretty => prettyLine entry
  | .json => jsonLine entry

end Ramp.Log
