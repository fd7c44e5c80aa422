import Ramp.Config.Document
import Ramp.Proofs.Decoding

/-!
# `Proofs.SettingsDocument` — where the nine settings of a document come from

The settings are a record of four sections, each of which is a record of its own. Both levels have
defaults, and they are told apart here: a section that is left out gives the defaults of all its
fields, a section that is there gives them field by field.

## Contents
- `Config.part?`: what a document gives for a field of a section.
- `Config.GivenBy`: all nine settings; `focus_sequence` to `focus_enabled`: no two of
  them share a view.
- `givenBy_of_ofDocument`: settings that are read are given by their document.
-/

namespace Ramp

namespace Config

open Document

/-- The names of the sections, in order. -/
def sectionNames : List String := ["sequence", "output", "logging", "metrics"]

/-- What a document gives for a field of a section, where `names` are all fields of the section in
    order. -/
def part? (document : Document) (sectionName : String) (names : List String) (name : String) :
    Option Document :=
  (document.given? sectionNames sectionName).bind (given? names name)

/-- The names of the fields on sequences, in order. -/
def sequenceNames : List String := ["element_type", "start", "length", "max_length"]

/-- The names of the fields on output, in order. -/
def outputNames : List String := ["format", "separator"]

/-- The names of the fields on logging, in order. -/
def loggingNames : List String := ["level", "format"]

/-- The names of the fields on metrics. -/
def metricsNames : List String := ["enabled"]

/-- **Where the settings of a document come from**: each one, on its own, is what the document gives
    for it, or else its default. -/
structure GivenBy (dialect : Dialect) (document : Document) (config : Config) : Prop where
  elementType : Given (choice ElementType dialect)
    (part? document "sequence" sequenceNames "element_type") .i32 config.sequence.elementType
  start : Given Document.start (part? document "sequence" sequenceNames "start") 0
    config.sequence.start
  length : Given count (part? document "sequence" sequenceNames "length") 4 config.sequence.length
  maxLength : Given count (part? document "sequence" sequenceNames "max_length") 16777216
    config.sequence.maxLength
  format : Given (choice OutputFormat dialect) (part? document "output" outputNames "format") .text
    config.output.format
  separator : Given text (part? document "output" outputNames "separator") " "
    config.output.separator
  level : Given text (part? document "logging" loggingNames "level") "warn" config.logging.level
  logFormat : Given (choice LogFormat dialect) (part? document "logging" loggingNames "format")
    .compact config.logging.format
  metrics : Given flag (part? document "metrics" metricsNames "enabled") false
    config.metrics.enabled

/-! Each section, and each field of a section, is the only one that its view belongs to. -/

theorem focus_sequence (dialect : Dialect) :
    Focus "sequence" (record dialect "struct SequenceConfig" (sequenceFields dialect) {})
      Config.sequence (configFields dialect) :=
  .of_here (fun _ _ => rfl) <| apart_of (by decide) (fun _ _ => rfl) <|
    apart_of (by decide) (fun _ _ => rfl) <| apart_of (by decide) (fun _ _ => rfl) apart_nil

theorem focus_output (dialect : Dialect) :
    Focus "output" (record dialect "struct OutputConfig" (outputFields dialect) {})
      Config.output (configFields dialect) :=
  .of_there (by decide) (fun _ _ => rfl) <| .of_here (fun _ _ => rfl) <|
    apart_of (by decide) (fun _ _ => rfl) <| apart_of (by decide) (fun _ _ => rfl) apart_nil

theorem focus_logging (dialect : Dialect) :
    Focus "logging" (record dialect "struct LoggingConfig" (loggingFields dialect) {})
      Config.logging (configFields dialect) :=
  .of_there (by decide) (fun _ _ => rfl) <| .of_there (by decide) (fun _ _ => rfl) <|
    .of_here (fun _ _ => rfl) <| apart_of (by decide) (fun _ _ => rfl) apart_nil

theorem focus_metrics (dialect : Dialect) :
    Focus "metrics" (record dialect "struct MetricsConfig" metricsFields {})
      Config.metrics (configFields dialect) :=
  .of_there (by decide) (fun _ _ => rfl) <| .of_there (by decide) (fun _ _ => rfl) <|
    .of_there (by decide) (fun _ _ => rfl) <| .of_here (fun _ _ => rfl) apart_nil

theorem focus_elementType (dialect : Dialect) :
    Focus "element_type" (choice ElementType dialect) SequenceSettings.elementType
      (sequenceFields dialect) :=
  .of_here (fun _ _ => rfl) <| apart_of (by decide) (fun _ _ => rfl) <|
    apart_of (by decide) (fun _ _ => rfl) <| apart_of (by decide) (fun _ _ => rfl) apart_nil

theorem focus_start (dialect : Dialect) :
    Focus "start" Document.start SequenceSettings.start (sequenceFields dialect) :=
  .of_there (by decide) (fun _ _ => rfl) <| .of_here (fun _ _ => rfl) <|
    apart_of (by decide) (fun _ _ => rfl) <| apart_of (by decide) (fun _ _ => rfl) apart_nil

theorem focus_length (dialect : Dialect) :
    Focus "length" count SequenceSettings.length (sequenceFields dialect) :=
  .of_there (by decide) (fun _ _ => rfl) <| .of_there (by decide) (fun _ _ => rfl) <|
    .of_here (fun _ _ => rfl) <| apart_of (by decide) (fun _ _ => rfl) apart_nil

theorem focus_maxLength (dialect : Dialect) :
    Focus "max_length" count SequenceSettings.maxLength (sequenceFields dialect) :=
  .of_there (by decide) (fun _ _ => rfl) <| .of_there (by decide) (fun _ _ => rfl) <|
    .of_there (by decide) (fun _ _ => rfl) <| .of_here (fun _ _ => rfl) apart_nil

theorem focus_format (dialect : Dialect) :
    Focus "format" (choice OutputFormat dialect) OutputSettings.format (outputFields dialect) :=
  .of_here (fun _ _ => rfl) <| apart_of (by decide) (fun _ _ => rfl) apart_nil

theorem focus_separator (dialect : Dialect) :
    Focus "separator" text OutputSettings.separator (outputFields dialect) :=
  .of_there (by decide) (fun _ _ => rfl) <| .of_here (fun _ _ => rfl) apart_nil

theorem focus_level (dialect : Dialect) :
    Focus "level" text LoggingSettings.level (loggingFields dialect) :=
  .of_here (fun _ _ => rfl) <| apart_of (by decide) (fun _ _ => rfl) apart_nil

theorem focus_logFormat (dialect : Dialect) :
    Focus "format" (choice LogFormat dialect) LoggingSettings.format (loggingFields dialect) :=
  .of_there (by decide) (fun _ _ => rfl) <| .of_here (fun _ _ => rfl) apart_nil

theorem focus_enabled : Focus "enabled" flag MetricsSettings.enabled metricsFields :=
  .of_here (fun _ _ => rfl) apart_nil

/-- **Settings come from the document or from the defaults**, each one on its own. -/
theorem givenBy_of_ofDocument {dialect : Dialect} {document : Document} {config : Config}
    (h : ofDocument dialect document = .ok config) : GivenBy dialect document config := by
  have hsequence := given_record (focus_sequence dialect) h
  have houtput := given_record (focus_output dialect) h
  have hlogging := given_record (focus_logging dialect) h
  have hmetrics := given_record (focus_metrics dialect) h
  exact
    { elementType := given_bind (focus_elementType dialect) hsequence
      start := given_bind (focus_start dialect) hsequence
      length := given_bind (focus_length dialect) hsequence
      maxLength := given_bind (focus_maxLength dialect) hsequence
      format := given_bind (focus_format dialect) houtput
      separator := given_bind (focus_separator dialect) houtput
      level := given_bind (focus_level dialect) hlogging
      logFormat := given_bind (focus_logFormat dialect) hlogging
      metrics := given_bind focus_enabled hmetrics }

end Config

end Ramp
