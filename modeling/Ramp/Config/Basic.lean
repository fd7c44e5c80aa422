import Ramp.ElementType.Basic
import Ramp.Text.Quoted

/-!
# `Config.Basic` — the settings of the program

## Contents
- `OutputFormat` and `LogFormat`, with their names.
- `SequenceSettings`, `OutputSettings`, `LoggingSettings`, `MetricsSettings` and `Config`, with
  their defaults.
- `LoggingSettings.normalizedLevel`: the level as it is compared with the names of levels.
- `Config.oneLine`: all settings on one line.
-/

namespace Ramp

/-- The constant that the program can print, and the default length of a sequence. -/
def four : Nat := 4

/-- How a sequence is written. -/
inductive OutputFormat where
  /-- Values joined by a separator. -/
  | text
  /-- A JSON array. -/
  | json
  deriving DecidableEq, Repr

instance : Named OutputFormat where
  all := [.text, .json]
  name
    | .text => "text"
    | .json => "json"
  mem_all a := by cases a <;> decide
  name_inj a b h := by revert h; cases a <;> cases b <;> decide
  normalize_name a := by cases a <;> rfl

/-- How a log event is written. -/
inductive LogFormat where
  | pretty
  | compact
  | json
  deriving DecidableEq, Repr

instance : Named LogFormat where
  all := [.pretty, .compact, .json]
  name
    | .pretty => "pretty"
    | .compact => "compact"
    | .json => "json"
  mem_all a := by cases a <;> decide
  name_inj a b h := by revert h; cases a <;> cases b <;> decide
  normalize_name a := by cases a <;> rfl

/-- What to generate. -/
structure SequenceSettings where
  elementType : ElementType := .i32
  /-- The first value. -/
  start : Int64 := 0
  /-- The number of values. -/
  length : UInt64 := UInt64.ofNat four
  /-- The greatest length that is allowed. -/
  maxLength : UInt64 := 16777216
  deriving DecidableEq, Repr

/-- How to write it. -/
structure OutputSettings where
  format : OutputFormat := .text
  /-- What stands between two values in text. -/
  separator : String := " "
  deriving DecidableEq, Repr

/-- What to tell while working. -/
structure LoggingSettings where
  level : String := "warn"
  format : LogFormat := .compact
  deriving DecidableEq, Repr

/-- What to count while working. -/
structure MetricsSettings where
  /-- Whether the counts are printed after a run. -/
  enabled : Bool := false
  deriving DecidableEq, Repr

/-- All settings. -/
structure Config where
  sequence : SequenceSettings := {}
  output : OutputSettings := {}
  logging : LoggingSettings := {}
  metrics : MetricsSettings := {}
  deriving DecidableEq, Repr

/-- The level without blanks around it and without ASCII capitals. -/
def LoggingSettings.normalizedLevel (settings : LoggingSettings) : String :=
  Text.normalize settings.level

/-- A name with its first letter in upper case. -/
def titleOf {α : Type} [Named α] (a : α) : String :=
  (Named.name a).capitalize

namespace Config

/-- A record as it is shown: its title and its fields. -/
def showRecord (title : String) (fields : List (String × String)) : String :=
  let shown := fields.map fun field => field.1 ++ ": " ++ field.2
  title ++ " \x7b " ++ String.intercalate ", " shown ++ " \x7d"

/-- All settings on one line. -/
def oneLine (config : Config) : String :=
  showRecord "Config" [
    ("sequence", showRecord "SequenceConfig" [
      ("element_type", titleOf config.sequence.elementType),
      ("start", config.sequence.start.toInt.repr),
      ("length", config.sequence.length.toNat.repr),
      ("max_length", config.sequence.maxLength.toNat.repr)]),
    ("output", showRecord "OutputConfig" [
      ("format", titleOf config.output.format),
      ("separator", Text.quote config.output.separator)]),
    ("logging", showRecord "LoggingConfig" [
      ("level", Text.quote config.logging.level),
      ("format", titleOf config.logging.format)]),
    ("metrics", showRecord "MetricsConfig" [
      ("enabled", if config.metrics.enabled then "true" else "false")])]

end Config

end Ramp
