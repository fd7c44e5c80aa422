import Ramp.Json.Decode
import Ramp.Proofs.Decoding
import Ramp.Proofs.JsonText

/-!
# `Proofs.SettingsText` — settings that are written are read back

The settings are written field by field, each under its name, and the readers of the fields are
found by the same names. A field that is read back on its own is so in its section
(`members_of_field`), and a section that is read back is so among all settings. The names and the
order need not be gone through beyond that. Whatever is written fits JSON, so the text makes no
difference (`Json.read_write`).

## Contents
- `choice_nameDocument`, `start_toInt`, `count_toNat`: each kind of value is read back.
- `members_of_field`: one field of a record; `record_sequence` and its siblings: the sections.
- `ofDocument_toDocument`: all settings.
- `Json.decode_write`, `isPlain_toDocument`, `ofJson_toJson`: the same through the text.
- `rewritten`, and `json_canonical`: the main result.
-/

namespace Ramp

open Document

/-! ## Values -/

namespace Document

/-- A name is read as the member that has it, in either language. -/
theorem choice_nameDocument {α : Type} [Named α] (dialect : Dialect) (a : α) :
    choice α dialect (Config.nameDocument a) = .ok a := by
  have hmember : member α (Named.name a) = .ok a := by
    unfold member
    rw [Named.ofName?_name]
  cases dialect with
  | toml => exact hmember
  | json => exact hmember

/-- A signed integer of 64 bits is within the limits. -/
theorem toInt_mem_limits (n : Int64) :
    Int64.minValue.toInt ≤ n.toInt ∧ n.toInt ≤ Int64.maxValue.toInt :=
  ⟨Int64.le_iff_toInt_le.mp n.minValue_le, Int64.le_iff_toInt_le.mp n.le_maxValue⟩

/-- An unsigned integer of 64 bits is within the limits. -/
theorem toNat_mem_limits (n : UInt64) : 0 ≤ (n.toNat : Int) ∧ (n.toNat : Int) < UInt64.size :=
  ⟨Int.natCast_nonneg _, Int.ofNat_lt.mpr n.toNat_lt_size⟩

/-- A signed integer of 64 bits is read as itself. -/
theorem start_toInt (n : Int64) : start (.integer n.toInt) = .ok n := by
  rw [start, if_pos (toInt_mem_limits n), Int64.ofInt_toInt]

/-- An unsigned integer of 64 bits is read as itself. -/
theorem count_toNat (n : UInt64) : count (.integer n.toNat) = .ok n := by
  rw [count, if_pos (toNat_mem_limits n), Int.toNat_natCast, UInt64.ofNat_toNat]

/-! ## Fields -/

section Field

variable {σ α : Type} {fields : List (FieldReader σ)} {seen : List String} {name : String}
  {read : Document → Except Fault α} {store : α → σ → σ} {value : Document} {a : α}

/-- **A field that is read back on its own is stored**, and the members that follow are read. -/
theorem members_of_field
    (hfind : fields.find? (fun field => field.name == name) = some (.of name read store))
    (hnew : seen.contains name = false) (hread : read value = .ok a) (record : σ)
    (rest : List (Document × Document)) :
    members fields seen record ((.string (some name), value) :: rest) =
      members fields (name :: seen) (store a record) rest := by
  have hchange : (FieldReader.of name read store).read value = .ok (store a) := by
    unfold FieldReader.of
    simp only [hread]
    rfl
  simp only [members, hfind, hnew, hchange]
  rfl

end Field

end Document

/-! ## Texts -/

namespace Json

/-- **What is read from the text of a document is what is read from the document**, if it fits
    JSON. -/
theorem decode_write {α : Type} {document : Document} (h : document.IsPlain)
    (ofDocument : Document → Except Fault α) :
    decode ofDocument (write document) = ofDocument document := by
  unfold decode
  simp only [read_write h]
  cases ofDocument document <;> rfl

end Json

namespace Config

/-! ## Sections -/

/-- The section on sequences as a document. -/
def sequenceDocument (settings : SequenceSettings) : Document :=
  namedTable [
    ("element_type", nameDocument settings.elementType),
    ("start", .integer settings.start.toInt),
    ("length", .integer settings.length.toNat),
    ("max_length", .integer settings.maxLength.toNat)]

/-- The section on output as a document. -/
def outputDocument (settings : OutputSettings) : Document :=
  namedTable [
    ("format", nameDocument settings.format),
    ("separator", .string (some settings.separator))]

/-- The section on logging as a document. -/
def loggingDocument (settings : LoggingSettings) : Document :=
  namedTable [
    ("level", .string (some settings.level)),
    ("format", nameDocument settings.format)]

/-- The section on metrics as a document. -/
def metricsDocument (settings : MetricsSettings) : Document :=
  namedTable [("enabled", .boolean settings.enabled)]

theorem toDocument_eq (config : Config) :
    config.toDocument = namedTable [
      ("sequence", sequenceDocument config.sequence),
      ("output", outputDocument config.output),
      ("logging", loggingDocument config.logging),
      ("metrics", metricsDocument config.metrics)] := rfl

theorem record_namedTable {σ : Type} (dialect : Dialect) (title : String)
    (fields : List (FieldReader σ)) (defaults : σ) (found : List (String × Document)) :
    record dialect title fields defaults (namedTable found) =
      members fields [] defaults (found.map fun member => (.string (some member.1), member.2)) :=
  rfl

theorem record_sequence (dialect : Dialect) (settings : SequenceSettings) :
    record dialect "struct SequenceConfig" (sequenceFields dialect) {} (sequenceDocument settings) =
      .ok settings := by
  rw [sequenceDocument, record_namedTable]
  simp only [List.map_cons, List.map_nil]
  rw [members_of_field rfl rfl (choice_nameDocument dialect settings.elementType),
    members_of_field rfl rfl (start_toInt settings.start),
    members_of_field rfl rfl (count_toNat settings.length),
    members_of_field rfl rfl (count_toNat settings.maxLength)]
  rfl

theorem record_output (dialect : Dialect) (settings : OutputSettings) :
    record dialect "struct OutputConfig" (outputFields dialect) {} (outputDocument settings) =
      .ok settings := by
  have hseparator : text (.string (some settings.separator)) = .ok settings.separator := rfl
  rw [outputDocument, record_namedTable]
  simp only [List.map_cons, List.map_nil]
  rw [members_of_field rfl rfl (choice_nameDocument dialect settings.format),
    members_of_field rfl rfl hseparator]
  rfl

theorem record_logging (dialect : Dialect) (settings : LoggingSettings) :
    record dialect "struct LoggingConfig" (loggingFields dialect) {} (loggingDocument settings) =
      .ok settings := by
  have hlevel : text (.string (some settings.level)) = .ok settings.level := rfl
  rw [loggingDocument, record_namedTable]
  simp only [List.map_cons, List.map_nil]
  rw [members_of_field rfl rfl hlevel,
    members_of_field rfl rfl (choice_nameDocument dialect settings.format)]
  rfl

theorem record_metrics (dialect : Dialect) (settings : MetricsSettings) :
    record dialect "struct MetricsConfig" metricsFields {} (metricsDocument settings) =
      .ok settings := by
  have henabled : flag (.boolean settings.enabled) = .ok settings.enabled := rfl
  rw [metricsDocument, record_namedTable]
  simp only [List.map_cons, List.map_nil]
  rw [members_of_field rfl rfl henabled]
  rfl

/-- **Settings are read back from their document**, in either language. -/
theorem ofDocument_toDocument (dialect : Dialect) (config : Config) :
    ofDocument dialect config.toDocument = .ok config := by
  rw [toDocument_eq, ofDocument, record_namedTable]
  simp only [List.map_cons, List.map_nil]
  rw [members_of_field rfl rfl (record_sequence dialect config.sequence),
    members_of_field rfl rfl (record_output dialect config.output),
    members_of_field rfl rfl (record_logging dialect config.logging),
    members_of_field rfl rfl (record_metrics dialect config.metrics)]
  rfl

/-! ## The text -/

/-- A table of named values fits JSON if its values do. -/
theorem isPlain_namedTable {members : List (String × Document)}
    (h : ∀ member ∈ members, member.2.IsPlain) : (namedTable members).IsPlain := by
  apply Document.IsPlain.table
  · intro member hmember
    obtain ⟨⟨name, value⟩, -, rfl⟩ := List.mem_map.mp hmember
    exact ⟨name, rfl⟩
  · intro member hmember
    obtain ⟨named, hnamed, rfl⟩ := List.mem_map.mp hmember
    exact h named hnamed

theorem isPlain_start (n : Int64) : (Document.integer n.toInt).IsPlain := by
  obtain ⟨hlow, hhigh⟩ := toInt_mem_limits n
  have hmax : Int64.maxValue.toInt < UInt64.size := by decide
  exact .integer hlow (Int.lt_of_le_of_lt hhigh hmax)

theorem isPlain_count (n : UInt64) : (Document.integer n.toNat).IsPlain := by
  obtain ⟨hlow, hhigh⟩ := toNat_mem_limits n
  have hmin : Int64.minValue.toInt ≤ 0 := by decide
  exact .integer (Int.le_trans hmin hlow) hhigh

/-- **The document of settings fits JSON**, whatever their texts are. -/
theorem isPlain_toDocument (config : Config) : config.toDocument.IsPlain := by
  have hsequence : (sequenceDocument config.sequence).IsPlain := by
    apply isPlain_namedTable
    simp only [List.forall_mem_cons]
    exact ⟨.string _, isPlain_start _, isPlain_count _, isPlain_count _, by simp⟩
  have houtput : (outputDocument config.output).IsPlain := by
    apply isPlain_namedTable
    simp only [List.forall_mem_cons]
    exact ⟨.string _, .string _, by simp⟩
  have hlogging : (loggingDocument config.logging).IsPlain := by
    apply isPlain_namedTable
    simp only [List.forall_mem_cons]
    exact ⟨.string _, .string _, by simp⟩
  have hmetrics : (metricsDocument config.metrics).IsPlain := by
    apply isPlain_namedTable
    simp only [List.forall_mem_cons]
    exact ⟨.boolean _, by simp⟩
  rw [toDocument_eq]
  apply isPlain_namedTable
  simp only [List.forall_mem_cons]
  exact ⟨hsequence, houtput, hlogging, hmetrics, by simp⟩

/-- Settings are read back from their text. -/
theorem ofJson_toJson (config : Config) : ofJson config.toJson = .ok config := by
  unfold ofJson toJson
  rw [Json.decode_write (isPlain_toDocument config), ofDocument_toDocument]

/-! ## Main result -/

/-- The text with which settings are written again that are read from a text. -/
def rewritten (text : String) : Except Fault String :=
  (ofJson text).map toJson

/-- The text of settings is written again as it is. -/
theorem rewritten_toJson (config : Config) : rewritten config.toJson = .ok config.toJson := by
  rw [rewritten, ofJson_toJson]
  rfl

/-- **Writing settings and reading them is faithful**, in all nine settings: whatever they are, they
    are read back from their text. So a text is written again in a form of which writing it once
    more makes the same. -/
theorem json_canonical :
    (∀ config : Config, ofJson config.toJson = .ok config) ∧
      ∀ text, rewritten text >>= rewritten = rewritten text := by
  refine ⟨ofJson_toJson, fun text => ?_⟩
  cases hread : ofJson text with
  | error fault =>
    -- a text that is refused has nothing to be written again
    have hnone : rewritten text = .error fault := by
      rw [rewritten, hread]
      rfl
    rw [hnone]
    rfl
  | ok config =>
    have hsome : rewritten text = .ok config.toJson := by
      rw [rewritten, hread]
      rfl
    rw [hsome]
    exact Except.bind_eq_ok_iff.mpr ⟨config.toJson, rfl, rewritten_toJson config⟩

/-- An escape that is not needed is not written again, and all that is left out is. -/
example :
    (rewritten "\x7b\"output\":\x7b\"separator\":\"\\u002c\\u0007\"\x7d\x7d").toOption = some
      ("\x7b\"sequence\":\x7b\"element_type\":\"i32\",\"start\":0,\"length\":4," ++
        "\"max_length\":16777216\x7d," ++
        "\"output\":\x7b\"format\":\"text\",\"separator\":\",\\u0007\"\x7d," ++
        "\"logging\":\x7b\"level\":\"warn\",\"format\":\"compact\"\x7d," ++
        "\"metrics\":\x7b\"enabled\":false\x7d\x7d") := by
  decide +kernel

end Config

end Ramp
