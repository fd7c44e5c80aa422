import Ramp.Config.Basic
import Ramp.Document.Decode

/-!
# `Config.Document` — settings as a document

The same names and the same order serve for reading and for writing. Every section and every field
may be left out when reading.

## Contents
- The fields of each section, and `Config.ofDocument`.
- `Config.toDocument`.
-/

namespace Ramp

open Document

/-- The fields of the section on sequences. -/
def sequenceFields (dialect : Dialect) : List (FieldReader SequenceSettings) :=
  [.of "element_type" (choice ElementType dialect) fun ty s => { s with elementType := ty },
    .of "start" start fun n s => { s with start := n },
    .of "length" count fun n s => { s with length := n },
    .of "max_length" count fun n s => { s with maxLength := n }]

/-- The fields of the section on output. -/
def outputFields (dialect : Dialect) : List (FieldReader OutputSettings) :=
  [.of "format" (choice OutputFormat dialect) fun format s => { s with format := format },
    .of "separator" text fun separator s => { s with separator := separator }]

/-- The fields of the section on logging. -/
def loggingFields (dialect : Dialect) : List (FieldReader LoggingSettings) :=
  [.of "level" text fun level s => { s with level := level },
    .of "format" (choice LogFormat dialect) fun format s => { s with format := format }]

/-- The fields of the section on metrics. -/
def metricsFields : List (FieldReader MetricsSettings) :=
  [.of "enabled" flag fun enabled s => { s with enabled := enabled }]

/-- The sections. -/
def configFields (dialect : Dialect) : List (FieldReader Config) :=
  [.of "sequence" (record dialect "struct SequenceConfig" (sequenceFields dialect) {})
      fun value c => { c with sequence := value },
    .of "output" (record dialect "struct OutputConfig" (outputFields dialect) {})
      fun value c => { c with output := value },
    .of "logging" (record dialect "struct LoggingConfig" (loggingFields dialect) {})
      fun value c => { c with logging := value },
    .of "metrics" (record dialect "struct MetricsConfig" metricsFields {})
      fun value c => { c with metrics := value }]

namespace Config

/-- Reads settings out of a document. -/
def ofDocument (dialect : Dialect) (document : Document) : Except Fault Config :=
  record dialect "struct Config" (configFields dialect) {} document

/-- A table of named values. -/
def namedTable (members : List (String × Document)) : Document :=
  .table (members.map fun member => (.string (some member.1), member.2))

/-- A member of a finite type as a document. -/
def nameDocument {α : Type} [Named α] (a : α) : Document :=
  .string (some (Named.name a))

/-- Settings as a document. -/
def toDocument (config : Config) : Document :=
  namedTable [
    ("sequence", namedTable [
      ("element_type", nameDocument config.sequence.elementType),
      ("start", .integer config.sequence.start.toInt),
      ("length", .integer config.sequence.length.toNat),
      ("max_length", .integer config.sequence.maxLength.toNat)]),
    ("output", namedTable [
      ("format", nameDocument config.output.format),
      ("separator", .string (some config.output.separator))]),
    ("logging", namedTable [
      ("level", .string (some config.logging.level)),
      ("format", nameDocument config.logging.format)]),
    ("metrics", namedTable [
      ("enabled", .boolean config.metrics.enabled)])]

end Config

end Ramp
