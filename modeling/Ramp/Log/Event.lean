import Ramp.Log.Filter
import Ramp.Release
import Ramp.Sequence

/-!
# `Log.Event` — what is told while the program works

Events that occur within a run carry the settings of the run with them, provided the filter lets
the run itself through.

## Contents
- `Fill`, `Event`, and what is shown of an event: `level`, `target`, `message`, `fields`.
- `fillEvent?`, `generationEvent?`: what is told when a sequence is generated.
- `Entry`: an event together with the run within which it occurs.
- `runSpan`: the span of a run.
- `Receiver` and `Receiver.receive?`: what gets through.
-/

namespace Ramp.Log

open ElementType

/-- A run of values about to be written. -/
structure Fill where
  length : Nat
  elementType : ElementType
  start : Int
  deriving DecidableEq, Repr

/-- Something that happens. -/
inductive Event where
  /-- The program begins its work. -/
  | starting
  /-- The settings are known. -/
  | effectiveConfig (config : Config)
  /-- A run of values leaves its type and is refused. -/
  | rangeExceeded (fill : Fill)
  /-- A run of values is about to be written. -/
  | filling (fill : Fill)
  /-- A sequence is there, and written out. -/
  | generated (elements : Nat)
  deriving DecidableEq, Repr

/-- The fields of a run of values. -/
def Fill.fields (fill : Fill) : Fields :=
  [("length", .count fill.length), ("element_type", .text fill.elementType.name),
    ("start", .text fill.start.repr)]

namespace Event

/-- How much an event matters. -/
def level : Event → Level
  | .starting | .generated _ => .info
  | .effectiveConfig _ | .filling _ => .debug
  | .rangeExceeded _ => .warn

/-- The part of the program that an event comes from. -/
def target : Event → String
  | .starting | .effectiveConfig _ => programName
  | .rangeExceeded _ | .filling _ => programName ++ "::sequence::fill"
  | .generated _ => programName ++ "::app"

/-- The words of an event. -/
def message : Event → String
  | .starting => "Initializing " ++ programName ++ " v" ++ version
  | .effectiveConfig _ => "effective configuration"
  | .rangeExceeded _ => "sequence does not fit element type"
  | .filling _ => "filling sequence"
  | .generated _ => "sequence generated"

/-- The particulars of an event. -/
def fields : Event → Fields
  | .starting => []
  | .effectiveConfig config => [("config", .text config.oneLine)]
  | .rangeExceeded fill | .filling fill => fill.fields
  | .generated elements => [("elements", .count elements)]

/-- The names of all that an event carries. -/
def fieldNames (event : Event) : List String :=
  "message" :: event.fields.map Prod.fst

end Event

/-- What is told when `length` values from `start` on are to be written. Of no values nothing is
    told. -/
def fillEvent? {ty : ElementType} (start : Value ty) (length : Nat) : Option Event :=
  if length = 0 then none
  else
    match Buffer.refuse? start length with
    | none => some (.filling ⟨length, ty, start.toInt⟩)
    | some _ => some (.rangeExceeded ⟨length, ty, start.toInt⟩)

/-- What is told when a sequence is generated. Nothing is told if the first value is none of the
    type, or if there is no room for the values. -/
def generationEvent? (ty : ElementType) (start : Int) (length : Nat) : Option Event :=
  match Value.ofInt? ty start with
  | none => none
  | some start =>
    if Sequence.byteLimit < length * ty.bytes then none else fillEvent? start length

/-- An event, and the settings of the run within which it is shown to occur. -/
structure Entry where
  event : Event
  run : Option SequenceSettings
  deriving DecidableEq, Repr

/-- The name of the span of time that a run takes. -/
def spanName : String := "run"

/-- How much a run matters. -/
def spanLevel : Level := .info

/-- The part of the program that runs come from. -/
def spanTarget : String := programName ++ "::app"

/-- The particulars of a run. -/
def spanFields (settings : SequenceSettings) : Fields :=
  [("element_type", .text settings.elementType.name), ("start", .number settings.start.toInt),
    ("length", .count settings.length.toNat)]

/-- The span of time that a run takes. -/
def runSpan (settings : SequenceSettings) : Span :=
  ⟨spanName, spanTarget, spanLevel, spanFields settings⟩

/-- Where events go. -/
structure Receiver where
  filter : Filter
  format : LogFormat
  deriving DecidableEq, Repr

namespace Receiver

/-- The receiver that the settings and the value of the variable for filters ask for, or the message
    of what stops the reading of the filter. -/
def ofSettings (value : Option String) (settings : LoggingSettings) : Except String Receiver :=
  (Filter.ofSettings value settings).map fun filter => ⟨filter, settings.format⟩

/-- What a receiver makes of an event that occurs within a run. -/
def receive? (receiver : Receiver) (run : Option SequenceSettings) (event : Event) :
    Option Entry :=
  let heeded := run.filter fun settings => receiver.filter.admitsSpan (runSpan settings)
  let scope := match heeded with
    | some settings => receiver.filter.within (runSpan settings)
    | none => .off
  if receiver.filter.admits scope event.target event.level event.fieldNames then
    some ⟨event, heeded⟩
  else none

end Receiver

end Ramp.Log
