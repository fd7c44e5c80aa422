import Mathlib.Data.List.Forall2
import Ramp.Config.Layers
import Ramp.Json.Decode
import Ramp.Proofs.JsonNumbers
import Ramp.Proofs.SettingsDocument
import Ramp.Proofs.Tables
import Ramp.Proofs.TomlNumbers

/-!
# `Proofs.SettingsFields` — settings are read field by field

There are nine fields in four sections. Whether a document is accepted, and what it gives for a
field, goes by the fields that it holds one by one: each must hold a value of its kind, and then
gives just that. Sections and names that are not known, and the order of all of them, make no
difference. All this is shown of one section first (`exists_section_iff`), then of a document and
then of the texts that documents are read from.

## Contents
- `Config.Field`: the nine fields; `Gives`: what a document holds for them; `IsTabular`.
- `Covers`, with `exists_section_iff` and `exists_ofDocument_iff`: when a document is read.
- `shown_of_ofDocument`: what is read.
- `Written`: settings in a file or in a JSON text.
- `decoded_fieldwise`: the main result.
-/

namespace Ramp

namespace Config

open Document

/-! ## Fields -/

/-- The fields of the settings. -/
inductive Field where
  | elementType
  | start
  | length
  | maxLength
  | outputFormat
  | separator
  | level
  | logFormat
  | enabled
  deriving DecidableEq, Repr

namespace Field

/-- The section that a field is in. -/
def sectionName : Field → String
  | .elementType | .start | .length | .maxLength => "sequence"
  | .outputFormat | .separator => "output"
  | .level | .logFormat => "logging"
  | .enabled => "metrics"

/-- The name of a field in its section. -/
def name : Field → String
  | .elementType => "element_type"
  | .start => "start"
  | .length => "length"
  | .maxLength => "max_length"
  | .outputFormat | .logFormat => "format"
  | .separator => "separator"
  | .level => "level"
  | .enabled => "enabled"

/-- What a field takes. -/
def kind : Field → Kind
  | .elementType => .choice (Named.names ElementType)
  | .start => .signed
  | .length | .maxLength => .count
  | .outputFormat => .choice (Named.names OutputFormat)
  | .logFormat => .choice (Named.names LogFormat)
  | .separator | .level => .text
  | .enabled => .flag

/-- The value of a field, as it stands in a document. -/
def shown : Field → Config → Document
  | .elementType, config => nameDocument config.sequence.elementType
  | .start, config => .integer config.sequence.start.toInt
  | .length, config => .integer config.sequence.length.toNat
  | .maxLength, config => .integer config.sequence.maxLength.toNat
  | .outputFormat, config => nameDocument config.output.format
  | .separator, config => .string (some config.output.separator)
  | .level, config => .string (some config.logging.level)
  | .logFormat, config => nameDocument config.logging.format
  | .enabled, config => .boolean config.metrics.enabled

/-- A value is read for a field. -/
def Accepts (dialect : Dialect) : Field → Document → Prop
  | .elementType, value => ∃ a, choice ElementType dialect value = .ok a
  | .start, value => ∃ n, Document.start value = .ok n
  | .length, value | .maxLength, value => ∃ n, count value = .ok n
  | .outputFormat, value => ∃ a, choice OutputFormat dialect value = .ok a
  | .separator, value | .level, value => ∃ s, text value = .ok s
  | .logFormat, value => ∃ a, choice LogFormat dialect value = .ok a
  | .enabled, value => ∃ b, flag value = .ok b

theorem accepts_iff (field : Field) {dialect : Dialect} {value : Document}
    (h : value.Fits dialect) : field.Accepts dialect value ↔ field.kind.Admits dialect value := by
  cases field with
  | elementType => exact (takes_choice ElementType dialect).admits value h
  | start => exact (takes_start dialect).admits value h
  | length | maxLength => exact (takes_count dialect).admits value h
  | outputFormat => exact (takes_choice OutputFormat dialect).admits value h
  | separator | level => exact (takes_text dialect).admits value h
  | logFormat => exact (takes_choice LogFormat dialect).admits value h
  | enabled => exact (takes_flag dialect).admits value h

end Field

/-- A document holds a value for a field: the section of the field is there, and in it the field. -/
def Gives (document : Document) (field : Field) (value : Document) : Prop :=
  ∃ part, document.Has field.sectionName part ∧ part.Has field.name value

/-- **A document as it is meant to be written**: it is a table, the sections that are there are, and
    the fields that are there hold scalars. -/
structure IsTabular (document : Document) : Prop where
  isTable : document.IsTable
  isTable_section : ∀ (field : Field) part, document.Has field.sectionName part → part.IsTable
  isScalar : ∀ field value, Gives document field value → value.IsScalar

section Reading

variable {dialect : Dialect} {document part : Document} {config : Config}

/-! ## When a document is read -/

/-- **A section has readers for its fields**, and for no others. -/
structure Covers {σ : Type} (dialect : Dialect) (sectionName : String)
    (readers : List (FieldReader σ)) (fields : List Field) : Prop where
  nodup : (readers.map FieldReader.name).Nodup
  sectionName_iff : ∀ field : Field, field.sectionName = sectionName ↔ field ∈ fields
  pairs : List.Forall₂ (fun reader field => reader.name = field.name ∧
    ∀ value, (∃ change, reader.read value = .ok change) ↔ field.Accepts dialect value)
    readers fields

theorem covers_sequence (dialect : Dialect) :
    Covers dialect "sequence" (sequenceFields dialect)
      [.elementType, .start, .length, .maxLength] where
  nodup := show sequenceNames.Nodup by decide
  sectionName_iff field := by cases field <;> decide
  pairs := .cons ⟨rfl, fun _ => exists_read_of⟩ <| .cons ⟨rfl, fun _ => exists_read_of⟩ <|
    .cons ⟨rfl, fun _ => exists_read_of⟩ <| .cons ⟨rfl, fun _ => exists_read_of⟩ .nil

theorem covers_output (dialect : Dialect) :
    Covers dialect "output" (outputFields dialect) [.outputFormat, .separator] where
  nodup := show outputNames.Nodup by decide
  sectionName_iff field := by cases field <;> decide
  pairs := .cons ⟨rfl, fun _ => exists_read_of⟩ <| .cons ⟨rfl, fun _ => exists_read_of⟩ .nil

theorem covers_logging (dialect : Dialect) :
    Covers dialect "logging" (loggingFields dialect) [.level, .logFormat] where
  nodup := show loggingNames.Nodup by decide
  sectionName_iff field := by cases field <;> decide
  pairs := .cons ⟨rfl, fun _ => exists_read_of⟩ <| .cons ⟨rfl, fun _ => exists_read_of⟩ .nil

theorem covers_metrics (dialect : Dialect) :
    Covers dialect "metrics" metricsFields [.enabled] where
  nodup := show metricsNames.Nodup by decide
  sectionName_iff field := by cases field <;> decide
  pairs := .cons ⟨rfl, fun _ => exists_read_of⟩ .nil

section Section

variable {σ : Type} {sectionName : String} {readers : List (FieldReader σ)} {fields : List Field}
  (title : String) (defaults : σ)

/-- A section is read when each of its fields is that it holds. -/
theorem exists_section_iff (hcovers : Covers dialect sectionName readers fields)
    (h : part.IsTable) (hright : part.isWellFormed = true) :
    (∃ settings, record dialect title readers defaults part = .ok settings) ↔
      ∀ field : Field, field.sectionName = sectionName → ∀ value, part.Has field.name value →
        field.Accepts dialect value := by
  rw [exists_record_iff hcovers.nodup h hright]
  simp only [hcovers.sectionName_iff]
  have hpairs := hcovers.pairs
  clear hcovers
  induction hpairs with
  | nil => simp
  | cons hpair _ ih => simp only [List.forall_mem_cons, hpair.1, hpair.2, ih]

/-- The same for all that a document gives for the section. -/
theorem forall_section_iff (hcovers : Covers dialect sectionName readers fields)
    (hfield : ∃ field : Field, field.sectionName = sectionName) (h : IsTabular document)
    (hright : document.isWellFormed = true) :
    (∀ part, document.Has sectionName part →
        ∃ settings, record dialect title readers defaults part = .ok settings) ↔
      ∀ field : Field, field.sectionName = sectionName → ∀ value, Gives document field value →
        field.Accepts dialect value := by
  obtain ⟨first, rfl⟩ := hfield
  have hsection := fun part (hpart : document.Has first.sectionName part) =>
    exists_section_iff title defaults hcovers (h.isTable_section first part hpart)
      (isWellFormed_of_has hright hpart)
  constructor
  · rintro hread field hname value ⟨part, hpart, hvalue⟩
    rw [hname] at hpart
    exact (hsection part hpart).mp (hread part hpart) field hname value hvalue
  · intro haccepts part hpart
    refine (hsection part hpart).mpr fun field hname value hvalue => ?_
    exact haccepts field hname value ⟨part, hname ▸ hpart, hvalue⟩

end Section

/-- **Settings are read when each field is** that the document gives a value for. -/
theorem exists_ofDocument_iff (h : IsTabular document) (hright : document.isWellFormed = true) :
    (∃ config, ofDocument dialect document = .ok config) ↔
      ∀ field value, Gives document field value → field.Accepts dialect value := by
  have hnames : ((configFields dialect).map FieldReader.name).Nodup := by
    show sectionNames.Nodup
    decide
  unfold ofDocument
  rw [exists_record_iff hnames h.isTable hright]
  simp only [configFields, List.forall_mem_cons, exists_read_of]
  have hsequence := forall_section_iff "struct SequenceConfig" {} (covers_sequence dialect)
    ⟨.start, rfl⟩ h hright
  have houtput := forall_section_iff "struct OutputConfig" {} (covers_output dialect)
    ⟨.separator, rfl⟩ h hright
  have hlogging := forall_section_iff "struct LoggingConfig" {} (covers_logging dialect)
    ⟨.level, rfl⟩ h hright
  have hmetrics := forall_section_iff "struct MetricsConfig" {} (covers_metrics dialect)
    ⟨.enabled, rfl⟩ h hright
  constructor
  · rintro ⟨hreadSequence, hreadOutput, hreadLogging, hreadMetrics, -⟩ field
    cases field with
    | elementType | start | length | maxLength => exact hsequence.mp hreadSequence _ rfl
    | outputFormat | separator => exact houtput.mp hreadOutput _ rfl
    | level | logFormat => exact hlogging.mp hreadLogging _ rfl
    | enabled => exact hmetrics.mp hreadMetrics _ rfl
  · intro haccepts
    exact ⟨hsequence.mpr fun field _ => haccepts field, houtput.mpr fun field _ => haccepts field,
      hlogging.mpr fun field _ => haccepts field, hmetrics.mpr fun field _ => haccepts field,
      by simp⟩

/-! ## What is read -/

/-- The part of a document that is read for a field is what the document gives for it. -/
theorem part?_eq_some_iff (h : IsTabular document) (field : Field) {names : List String}
    {value : Document} :
    part? document field.sectionName names field.name = some value ↔
      Gives document field value := by
  unfold part? Gives
  rw [Option.bind_eq_some_iff]
  refine exists_congr fun part => ?_
  rw [given?_eq_some_iff h.isTable]
  exact and_congr_right fun hpart => given?_eq_some_iff (h.isTable_section field part hpart)

theorem shown_of_given {α : Type} {kind : Kind} {read : Document → Except Fault α}
    {shown : α → Document} {names : List String} {default a : α} (h : IsTabular document)
    (htakes : Takes dialect kind read shown) (field : Field)
    (hgiven : Given read (part? document field.sectionName names field.name) default a) :
    (∀ value, Gives document field value → shown a = value) ∧
      ((∀ value, ¬ Gives document field value) → shown a = shown default) := by
  constructor
  · intro value hvalue
    rw [(part?_eq_some_iff h field).mpr hvalue] at hgiven
    exact htakes.shows value a (h.isScalar field value hvalue) hgiven
  · intro hnone
    have hpart : part? document field.sectionName names field.name = none :=
      Option.eq_none_iff_forall_ne_some.mpr fun value hvalue =>
        hnone value ((part?_eq_some_iff h field).mp hvalue)
    rw [hpart] at hgiven
    exact congrArg shown hgiven

/-- **Settings show, field by field, what the document gives**, and otherwise the defaults. -/
theorem shown_of_ofDocument (h : IsTabular document)
    (hread : ofDocument dialect document = .ok config) (field : Field) :
    (∀ value, Gives document field value → field.shown config = value) ∧
      ((∀ value, ¬ Gives document field value) → field.shown config = field.shown {}) := by
  have hgiven := givenBy_of_ofDocument hread
  cases field with
  | elementType => exact shown_of_given h (takes_choice _ dialect) .elementType hgiven.elementType
  | start => exact shown_of_given h (takes_start dialect) .start hgiven.start
  | length => exact shown_of_given h (takes_count dialect) .length hgiven.length
  | maxLength => exact shown_of_given h (takes_count dialect) .maxLength hgiven.maxLength
  | outputFormat => exact shown_of_given h (takes_choice _ dialect) .outputFormat hgiven.format
  | separator => exact shown_of_given h (takes_text dialect) .separator hgiven.separator
  | level => exact shown_of_given h (takes_text dialect) .level hgiven.level
  | logFormat => exact shown_of_given h (takes_choice _ dialect) .logFormat hgiven.logFormat
  | enabled => exact shown_of_given h (takes_flag dialect) .enabled hgiven.metrics

/-- Settings are told by what their fields show. -/
theorem ext_shown (config other : Config)
    (h : ∀ field : Field, field.shown config = field.shown other) : config = other := by
  obtain ⟨⟨elementType, start, length, maxLength⟩, ⟨format, separator⟩, ⟨level, logFormat⟩,
    ⟨enabled⟩⟩ := config
  obtain ⟨⟨elementType', start', length', maxLength'⟩, ⟨format', separator'⟩, ⟨level', logFormat'⟩,
    ⟨enabled'⟩⟩ := other
  have hname {α : Type} [Named α] {a b : α} (hab : nameDocument a = nameDocument b) : a = b := by
    injection hab with hab
    exact Named.name_inj a b (Option.some.inj hab)
  have hcount {m n : UInt64} (hmn : Document.integer m.toNat = .integer n.toNat) : m = n := by
    injection hmn with hmn
    exact UInt64.toNat_inj.mp (Int.ofNat.inj hmn)
  have hstart : start = start' := by
    injection h .start with hmn
    exact Int64.toInt_inj.mp hmn
  cases hname (h .elementType)
  cases hstart
  cases hcount (h .length)
  cases hcount (h .maxLength)
  cases hname (h .outputFormat)
  cases hname (h .logFormat)
  cases h .separator
  cases h .level
  cases h .enabled
  rfl

end Reading

/-! ## Texts -/

/-- Settings as they are written: in a file, in TOML, or in a JSON text. -/
inductive Written where
  | file (disk : Disk) (path : String)
  | json (text : String)

namespace Written

/-- The language of written settings. -/
def dialect : Written → Dialect
  | .file _ _ => .toml
  | .json _ => .json

/-- What the text says, if it is right to its end. -/
def document? : Written → Option Document
  | .file disk path => (disk.read path).toOption.bind Toml.read
  | .json text =>
    let reading := Json.read text
    if reading.isWhole ∧ reading.document.isWellFormed then some reading.document else none

/-- The settings that are read, if they are. -/
def decoded : Written → Option Config
  | .file disk path => (ofFile disk path).toOption
  | .json text => (ofJson text).toOption

variable {written other : Written} {document document' : Document} {config : Config}

/-- A text that is right has the settings of its document. -/
theorem decoded_eq (h : written.document? = some document) :
    written.decoded = (ofDocument written.dialect document).toOption := by
  cases written with
  | file disk path =>
    obtain ⟨text, htext, hread⟩ := Option.bind_eq_some_iff.mp h
    have hdisk := Except.eq_ok_of_toOption htext
    rw [decoded, dialect]
    simp only [ofFile, hdisk, ofToml, hread]
    cases ofDocument .toml document with
    | error fault => rfl
    | ok config => rfl
  | json text =>
    rw [document?] at h
    split at h
    · next hright =>
      cases h
      rw [decoded, dialect, ofJson, Json.decode]
      simp only [hright.1]
      cases ofDocument .json (Json.read text).document with
      | error fault => rfl
      | ok config => rfl
    · cases h

theorem isWellFormed_of_document? (h : written.document? = some document) :
    document.isWellFormed = true := by
  cases written with
  | file disk path =>
    obtain ⟨text, -, hread⟩ := Option.bind_eq_some_iff.mp h
    exact isWellFormed_of_isToml (Toml.isToml_of_read hread)
  | json text =>
    simp only [document?] at h
    split at h
    · next hright =>
      cases h
      exact hright.2
    · cases h

/-- A value that a text gives for a field is one that its language can hold. -/
theorem fits_of_gives (h : written.document? = some document) (htabular : IsTabular document)
    {field : Field} {value : Document} (hgives : Gives document field value) :
    value.Fits written.dialect where
  isScalar := htabular.isScalar field value hgives
  isToml htoml := by
    cases written with
    | file disk path =>
      obtain ⟨text, -, hread⟩ := Option.bind_eq_some_iff.mp h
      obtain ⟨part, hpart, hvalue⟩ := hgives
      exact isToml_of_has (isToml_of_has (Toml.isToml_of_read hread) hpart) hvalue
    | json text => cases htoml

/-- **A text is accepted when each field is of its kind** that it gives. -/
theorem exists_decoded_iff (h : written.document? = some document)
    (htabular : IsTabular document) :
    (∃ config, written.decoded = some config) ↔
      ∀ field value, Gives document field value → field.kind.Admits written.dialect value := by
  have hok : (∃ config, written.decoded = some config) ↔
      ∃ config, ofDocument written.dialect document = .ok config := by
    rw [decoded_eq h]
    refine exists_congr fun config => ⟨Except.eq_ok_of_toOption, fun hread => ?_⟩
    rw [hread]
    rfl
  rw [hok, exists_ofDocument_iff htabular (isWellFormed_of_document? h)]
  refine forall_congr' fun field => forall_congr' fun value => ?_
  exact imp_congr_right fun hgives => field.accepts_iff (fits_of_gives h htabular hgives)

/-- What a text gives is what its settings show, and the defaults fill the rest. -/
theorem shown_of_decoded (h : written.document? = some document) (htabular : IsTabular document)
    (hdecoded : written.decoded = some config) (field : Field) :
    (∀ value, Gives document field value → field.shown config = value) ∧
      ((∀ value, ¬ Gives document field value) → field.shown config = field.shown {}) := by
  rw [decoded_eq h] at hdecoded
  exact shown_of_ofDocument htabular (Except.eq_ok_of_toOption hdecoded) field

/-- Another text that gives the same for the fields has the same settings. -/
theorem decoded_of_gives_iff (h : written.document? = some document)
    (htabular : IsTabular document) (hother : other.document? = some document')
    (htabular' : IsTabular document') (hdialect : other.dialect = written.dialect)
    (hsame : ∀ field value, Gives document field value ↔ Gives document' field value)
    (hdecoded : written.decoded = some config) : other.decoded = some config := by
  have haccepted : ∃ config', other.decoded = some config' := by
    refine (exists_decoded_iff hother htabular').mpr fun field value hgives => ?_
    rw [hdialect]
    exact (exists_decoded_iff h htabular).mp ⟨config, hdecoded⟩ field value
      ((hsame field value).mpr hgives)
  obtain ⟨config', hdecoded'⟩ := haccepted
  rw [hdecoded', ext_shown config' config fun field => ?_]
  obtain ⟨hvalue, hdefault⟩ := shown_of_decoded h htabular hdecoded field
  obtain ⟨hvalue', hdefault'⟩ := shown_of_decoded hother htabular' hdecoded' field
  by_cases hgiven : ∃ value, Gives document field value
  · obtain ⟨value, hgives⟩ := hgiven
    rw [hvalue value hgives, hvalue' value ((hsame field value).mp hgives)]
  · have hnone : ∀ value, ¬ Gives document field value := fun value hgives => hgiven ⟨value, hgives⟩
    rw [hdefault hnone, hdefault' fun value hgives => hnone value ((hsame field value).mpr hgives)]

end Written

/-! ## Main result -/

/-- **Settings are read field by field**, from files and from JSON texts. A text that is right, and
    in which the tables are where they belong, is accepted exactly when each field that it gives has
    a value of its kind. Then each field is what the text gives for it, or else its default,
    whatever else there is. So two texts that give the same for the fields have the same settings:
    order does not count, and what is not known does not either. In JSON a number is an integer only
    if it is spelled as one, without a fraction or an exponent and not as a zero with a minus in
    front. In TOML an integer that is so spelled is a value as long as it has 64 bits, and then a
    count if it is not negative. -/
theorem decoded_fieldwise (written : Written) (document : Document)
    (hdocument : written.document? = some document) (htabular : IsTabular document) :
    ((∃ config, written.decoded = some config) ↔
      ∀ field value, Gives document field value → field.kind.Admits written.dialect value) ∧
    (∀ config, written.decoded = some config → ∀ field : Field,
      (∀ value, Gives document field value → field.shown config = value) ∧
        ((∀ value, ¬ Gives document field value) → field.shown config = field.shown {})) ∧
    (∀ (other : Written) (document' : Document),
      other.document? = some document' → IsTabular document' → other.dialect = written.dialect →
      (∀ field value, Gives document field value ↔ Gives document' field value) →
      other.decoded = written.decoded) ∧
    (∀ cs rest numeral (n : Int), Json.lexNumeral cs = some (numeral, rest) →
      (numeral.value = .integer n ↔
        cs = n.repr.toList ++ rest ∧ -9223372036854775808 ≤ n ∧ n ≤ 18446744073709551615)) ∧
    ∀ (n : Int) rest limit, Toml.EndsValue rest →
      Toml.value limit (n.repr.toList ++ rest) =
        if -9223372036854775808 ≤ n ∧ n ≤ 9223372036854775807 then some (.integer n, rest)
        else none := by
  refine ⟨Written.exists_decoded_iff hdocument htabular, fun config hdecoded field =>
    Written.shown_of_decoded hdocument htabular hdecoded field, ?_, ?_,
    fun n rest limit hends => Toml.value_repr n hends limit⟩
  · intro other document' hother htabular' hdialect hsame
    refine Option.ext fun config => ⟨fun hdecoded => ?_, fun hdecoded => ?_⟩
    · exact Written.decoded_of_gives_iff hother htabular' hdocument htabular hdialect.symm
        (fun field value => (hsame field value).symm) hdecoded
    · exact Written.decoded_of_gives_iff hdocument htabular hother htabular' hdialect hsame hdecoded
  · intro cs rest numeral n hnumeral
    have hmin : Int64.minValue.toInt = -9223372036854775808 := rfl
    have hsize : (UInt64.size : Int) = 18446744073709551616 := rfl
    rw [Json.value_eq_integer_iff hnumeral, hmin, hsize]
    refine and_congr_right fun _ => ?_
    omega

/-- Some sections and some fields, in no particular order, with others between them that are not
    known. -/
def partlyFilled : Document :=
  namedTable [
    ("theme", namedTable [("length", .null)]),
    ("logging", namedTable [
      ("colours", .array [.integer 1, .null]), ("level", .string (some "info"))]),
    ("sequence", namedTable [("length", .integer 12), ("element_type", .string (some "u8"))])]

theorem gives_partlyFilled {field : Field} {value : Document} :
    Gives partlyFilled field value ↔
      field = .level ∧ value = .string (some "info") ∨ field = .length ∧ value = .integer 12 ∨
        field = .elementType ∧ value = .string (some "u8") := by
  cases field <;>
    simp [Gives, partlyFilled, has_namedTable_iff, Field.sectionName, Field.name]

theorem isTabular_partlyFilled : IsTabular partlyFilled where
  isTable := ⟨_, rfl, by decide⟩
  isTable_section field part hpart := by
    rw [partlyFilled, has_namedTable_iff] at hpart
    simp only [List.mem_cons, Prod.mk.injEq, List.not_mem_nil, or_false] at hpart
    rcases hpart with ⟨-, rfl⟩ | ⟨-, rfl⟩ | ⟨-, rfl⟩ <;> exact ⟨_, rfl, by decide⟩
  isScalar field value hgives := by
    rcases gives_partlyFilled.mp hgives with ⟨-, rfl⟩ | ⟨-, rfl⟩ | ⟨-, rfl⟩ <;> exact trivial

theorem document?_partlyFilled :
    (Written.json (Json.write partlyFilled)).document? = some partlyFilled := by
  have hcolours : (Document.array [.integer 1, .null]).IsPlain := by
    refine .array ?_
    simp only [List.forall_mem_cons]
    exact ⟨.integer (by decide) (by decide), .null, by simp⟩
  have hplain : partlyFilled.IsPlain := by
    apply isPlain_namedTable
    simp only [List.forall_mem_cons]
    refine ⟨isPlain_namedTable ?_, isPlain_namedTable ?_, isPlain_namedTable ?_, by simp⟩
    all_goals simp only [List.forall_mem_cons]
    · exact ⟨.null, by simp⟩
    · exact ⟨hcolours, .string _, by simp⟩
    · exact ⟨.integer (by decide) (by decide), .string _, by simp⟩
  rw [Written.document?, Json.read_write hplain]
  rfl

/-- A file that gives one field. -/
def formatFile : Disk :=
  ⟨fun _ => .ok "[output]\nformat = \"json\"\n", fun _ => true⟩

/-- What the file says. -/
def formatDocument : Document :=
  namedTable [("output", namedTable [("format", .string (some "json"))])]

theorem gives_formatDocument {field : Field} {value : Document} :
    Gives formatDocument field value ↔
      field = .outputFormat ∧ value = .string (some "json") := by
  cases field <;>
    simp [Gives, formatDocument, has_namedTable_iff, Field.sectionName, Field.name]

theorem isTabular_formatDocument : IsTabular formatDocument where
  isTable := ⟨_, rfl, by decide⟩
  isTable_section field part hpart := by
    rw [formatDocument, has_namedTable_iff] at hpart
    simp only [List.mem_cons, Prod.mk.injEq, List.not_mem_nil, or_false] at hpart
    rw [hpart.2]
    exact ⟨_, rfl, by decide⟩
  isScalar field value hgives := by
    rw [(gives_formatDocument.mp hgives).2]
    exact trivial

/-- The characters of the file. -/
def formatChars : List Char :=
  ['[', 'o', 'u', 't', 'p', 'u', 't', ']', '\n',
    'f', 'o', 'r', 'm', 'a', 't', ' ', '=', ' ', '"', 'j', 's', 'o', 'n', '"', '\n']

theorem document?_formatFile :
    (Written.file formatFile defaultPath).document? = some formatDocument := by
  have htext : (formatFile.read defaultPath).toOption = some "[output]\nformat = \"json\"\n" := rfl
  have hchars : Toml.withoutMark "[output]\nformat = \"json\"\n" = formatChars := by
    decide +kernel
  have hstatements : Toml.statements formatChars =
      some ([.openTable [] "output", .assign [] "format" (.string (some "json"))], []) := rfl
  have hread : Toml.read "[output]\nformat = \"json\"\n" = some formatDocument := by
    rw [Toml.read, hchars, hstatements]
    rfl
  rw [Written.document?, htext, Option.bind_some, hread]

/-- What is given is read, from a JSON text and from a file, and the rest are the defaults. -/
theorem decoded_fieldwise_partlyFilled :
    (Written.json (Json.write partlyFilled)).decoded =
        some
          { sequence := { elementType := .u8, length := 12 }
            logging := { level := "info" } } ∧
      (Written.file formatFile defaultPath).decoded = some { output := { format := .json } } := by
  constructor
  · obtain ⟨haccepted, hshown, -, -, -⟩ := decoded_fieldwise (.json (Json.write partlyFilled))
      partlyFilled document?_partlyFilled isTabular_partlyFilled
    obtain ⟨config, hconfig⟩ := haccepted.mpr fun field value hgives => by
      rcases gives_partlyFilled.mp hgives with ⟨rfl, rfl⟩ | ⟨rfl, rfl⟩ | ⟨rfl, rfl⟩
      · exact trivial
      · exact ⟨by decide, by decide⟩
      · show "u8" ∈ Named.names ElementType
        decide
    rw [hconfig, ext_shown config _ fun field => ?_]
    obtain ⟨hgiven, hdefault⟩ := hshown config hconfig field
    simp only [gives_partlyFilled] at hgiven hdefault
    cases field with
    | level => exact hgiven (.string (some "info")) (Or.inl ⟨rfl, rfl⟩)
    | length => exact hgiven (.integer 12) (Or.inr (Or.inl ⟨rfl, rfl⟩))
    | elementType => exact hgiven (.string (some "u8")) (Or.inr (Or.inr ⟨rfl, rfl⟩))
    | _ => exact hdefault (by simp)
  · obtain ⟨haccepted, hshown, -, -, -⟩ := decoded_fieldwise (.file formatFile defaultPath)
      formatDocument document?_formatFile isTabular_formatDocument
    obtain ⟨config, hconfig⟩ := haccepted.mpr fun field value hgives => by
      obtain ⟨rfl, rfl⟩ := gives_formatDocument.mp hgives
      show "json" ∈ Named.names OutputFormat
      decide
    rw [hconfig, ext_shown config _ fun field => ?_]
    obtain ⟨hgiven, hdefault⟩ := hshown config hconfig field
    simp only [gives_formatDocument] at hgiven hdefault
    cases field with
    | outputFormat => exact hgiven (.string (some "json")) ⟨rfl, rfl⟩
    | _ => exact hdefault (by simp)

end Config

end Ramp
