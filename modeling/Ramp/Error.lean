import Ramp.Buffer
import Ramp.Config.Basic
import Ramp.Decimal.Numeral
import Ramp.Disk.Basic
import Ramp.Document.Fault

/-!
# `Error` — everything that can go wrong

An error has a kind, which says which part of the program refused, and a cause. The kinds that the
user can mend are *client* errors.

## Contents
- `Problem`: what is wrong with what the user gave, with its wording.
- `Error`, its wording `Error.message`, its class `Error.isClient`, and `Error.detail`, the form in
  which the program reports the error that ends it.
-/

namespace Ramp

/-- What is wrong with what the user gave. -/
inductive Problem where
  /-- The named setting is no numeral of its range. -/
  | numeral (setting : String) (why : Numeral.Refusal)
  /-- No element type has this name. -/
  | elementType (text : String)
  /-- The named setting is the name of no element type. -/
  | elementTypeSetting (setting text : String)
  /-- No output format has this name. -/
  | outputFormat (text : String)
  /-- No log format has this name. -/
  | logFormat (text : String)
  /-- The named setting is neither on nor off. -/
  | flag (setting text : String)
  /-- No length at all is allowed. -/
  | noLengthAllowed
  /-- The length is greater than the greatest one allowed. -/
  | lengthExceeded (length maxLength : Nat)
  /-- No log level has this name. -/
  | logLevel (text : String)
  /-- The first value is no value of the element type. -/
  | startOutside (start : Int) (elementType : ElementType)
  /-- A file of settings cannot be read. -/
  | unreadable (path : String) (why : ReadFailure)
  /-- Log events are already being received. -/
  | loggingInstalled
  /-- Any other problem, by its wording. -/
  | stated (message : String)
  deriving DecidableEq, Repr

namespace Problem

/-- The members of a finite type as they are listed to the user. -/
def options (α : Type) [Named α] : String :=
  "Valid options: " ++ String.intercalate ", " (Named.names α)

/-- The wording of an unknown element type. -/
def elementTypeMessage (text : String) : String :=
  s!"Unknown element type: {text}. {options ElementType}"

/-- The wording of a problem. -/
def message : Problem → String
  | .numeral setting why => s!"Invalid {setting}: {why.message}"
  | .elementType text => elementTypeMessage text
  | .elementTypeSetting setting text =>
    s!"Invalid {setting}: Invalid input: {elementTypeMessage text}"
  | .outputFormat text => s!"Invalid output format: {text}. {options OutputFormat}"
  | .logFormat text => s!"Invalid log format: {text}. {options LogFormat}"
  | .flag setting text => s!"Invalid {setting}: {text}"
  | .noLengthAllowed => "max_length must be at least 1"
  | .lengthExceeded length maxLength =>
    s!"Sequence length {length.repr} exceeds max_length {maxLength.repr}"
  | .logLevel text => s!"Invalid log level: {text}"
  | .startOutside start ty => s!"Start value {start.repr} does not fit in {ty.name}"
  | .unreadable path why => s!"Failed to read config file {Text.quote path}: {why.message}"
  | .loggingInstalled =>
    "Failed to initialize logging: a global default trace dispatcher has already been set"
  | .stated message => message

end Problem

/-- An error of the program. -/
inductive Error where
  /-- The settings are wrong. -/
  | config (problem : Problem)
  /-- The sequence leaves its element type. -/
  | overflow (report : Overflow)
  /-- What was asked for is wrong. -/
  | invalidInput (problem : Problem)
  /-- The system refuses. -/
  | io (message : String)
  /-- A JSON text is wrong or does not fit. -/
  | json (fault : Fault)
  /-- A TOML text is wrong or does not fit. -/
  | toml (fault : Fault)
  /-- The counts cannot be kept. -/
  | metrics (message : String)
  deriving DecidableEq, Repr

namespace Error

/-- The wording of a fault in a document. How a wrong text is worded is left open. -/
def faultMessage : Fault → String
  | .malformed => "malformed text"
  | .misfit why => why.message

/-- The wording of an error. -/
def message : Error → String
  | .config problem => "Configuration error: " ++ problem.message
  | .overflow report =>
    s!"Sequence overflow: {report.length.repr} {report.elementType.name} values starting at " ++
      s!"{report.start} exceed the type's range"
  | .invalidInput problem => "Invalid input: " ++ problem.message
  | .io message => "I/O error: " ++ message
  | .json fault => "JSON error: " ++ faultMessage fault
  | .toml fault => "TOML error: " ++ faultMessage fault ++ "\n"
  | .metrics message => "Metrics error: " ++ message

/-- Whether the user can mend the error. -/
def isClient : Error → Bool
  | .config _ | .overflow _ | .invalidInput _ | .toml _ => true
  | .io _ | .json _ | .metrics _ => false

/-- The kind of an error. -/
def kind : Error → String
  | .config _ => "Config"
  | .overflow _ => "Overflow"
  | .invalidInput _ => "InvalidInput"
  | .io _ => "Io"
  | .json _ => "Json"
  | .toml _ => "Toml"
  | .metrics _ => "Metrics"

/-- An error in the form in which the program reports it when it ends: its kind and, for errors
    that it words itself, its cause. -/
def detail (e : Error) : String :=
  match e with
  | .config problem | .invalidInput problem => e.kind ++ "(" ++ Text.quote problem.message ++ ")"
  | .overflow report =>
    Config.showRecord e.kind [
      ("element_type", titleOf report.elementType),
      ("start", Text.quote report.start),
      ("length", report.length.repr)]
  | .io _ | .json _ | .toml _ | .metrics _ => e.kind

end Error

end Ramp
