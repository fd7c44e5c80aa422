import Ramp.Config.Choice

/-!
# `Config.Override` — settings given one by one

Eight settings can be given as texts, in the environment or on the command line. Both sources read
a text the same way but for three things: only the environment allows blanks around a numeral, the
two report a bad numeral or type differently, and on the command line metrics can only be turned on.

Settings are read in a fixed order. The first bad text ends the reading; what was read before it
stays.

## Contents
- `Setting` with the order `Setting.all`, and `Source`.
- `Source.read`: the change to the settings that a text makes, or the error.
- `Config.override`: one pass over all settings, with the settings it leaves and its error;
  `overrideAll_append`: a pass can be cut in two anywhere.
- `Lookup` and `Lookup.overlay`: texts by setting, and those of one above those of another.
- `Environment` and `Environment.lookup`: the texts that variables give.
-/

namespace Ramp

/-- A setting that can be given as a text. -/
inductive Setting where
  | length
  | start
  | elementType
  | outputFormat
  | separator
  | logLevel
  | logFormat
  | metrics
  deriving DecidableEq, Repr

/-- All settings, in the order in which they are read. -/
def Setting.all : List Setting :=
  [.length, .start, .elementType, .outputFormat, .separator, .logLevel, .logFormat, .metrics]

theorem Setting.mem_all (s : Setting) : s ∈ Setting.all := by
  cases s <;> decide

/-- The variable of the environment that gives a setting. -/
def Setting.variableName : Setting → String
  | .length => "SF_LENGTH"
  | .start => "SF_START"
  | .elementType => "SF_ELEMENT_TYPE"
  | .outputFormat => "SF_OUTPUT_FORMAT"
  | .separator => "SF_SEPARATOR"
  | .logLevel => "SF_LOG_LEVEL"
  | .logFormat => "SF_LOG_FORMAT"
  | .metrics => "SF_METRICS"

/-- The words that turn a setting on and off. -/
def flagWords : List (String × Bool) :=
  [("1", true), ("true", true), ("yes", true), ("on", true),
    ("0", false), ("false", false), ("no", false), ("off", false)]

/-- Whether a text turns a setting on or off, if it is one of the words for it. -/
def readFlag? (text : String) : Option Bool :=
  flagWords.lookup (Text.normalize text)

/-- Reads an unsigned 64-bit numeral. -/
def readCount (cs : List Char) : Except Numeral.Refusal UInt64 :=
  UInt64.ofNat <$> Numeral.readNat (UInt64.size - 1) cs

/-- Reads a signed 64-bit numeral. -/
def readStart (cs : List Char) : Except Numeral.Refusal Int64 :=
  Int64.ofInt <$> Numeral.readInt Int64.minValue.toInt.natAbs Int64.maxValue.toInt.natAbs cs

/-- Where the text of a setting comes from. -/
inductive Source where
  | environment
  | commandLine
  deriving DecidableEq, Repr

namespace Source

/-- The characters of a numeral as a source gives it. -/
def numeralChars : Source → String → List Char
  | .environment, text => Text.trimChars text.toList
  | .commandLine, text => text.toList

/-- The error for a bad numeral. -/
def numeralError (source : Source) (setting : Setting) (why : Numeral.Refusal) : Error :=
  match source with
  | .environment => .config (.numeral setting.variableName why)
  | .commandLine => .invalidInput (.numeral (if setting = .start then "start" else "length") why)

/-- The element type that a source names. A bad name in the environment is reported as a bad
    setting. -/
def readElementType (source : Source) (text : String) : Except Error ElementType :=
  match source with
  | .environment =>
    (ElementType.ofText text).mapError fun _ =>
      .config (.elementTypeSetting Setting.elementType.variableName text)
  | .commandLine => ElementType.ofText text

/-- The change that the text of a setting makes. -/
def read (source : Source) (setting : Setting) (text : String) : Except Error (Config → Config) :=
  match setting with
  | .length =>
    match readCount (source.numeralChars text) with
    | .ok length => .ok fun c => { c with sequence.length := length }
    | .error why => .error (source.numeralError .length why)
  | .start =>
    match readStart (source.numeralChars text) with
    | .ok start => .ok fun c => { c with sequence.start := start }
    | .error why => .error (source.numeralError .start why)
  | .elementType => do
    let ty ← source.readElementType text
    return fun c => { c with sequence.elementType := ty }
  | .outputFormat => do
    let format ← OutputFormat.ofText text
    return fun c => { c with output.format := format }
  | .separator => .ok fun c => { c with output.separator := text }
  | .logLevel => .ok fun c => { c with logging.level := text }
  | .logFormat => do
    let format ← LogFormat.ofText text
    return fun c => { c with logging.format := format }
  | .metrics =>
    match readFlag? text with
    | some enabled => .ok fun c => { c with metrics.enabled := enabled }
    | none => .error (.config (.flag Setting.metrics.variableName text))

end Source

/-- The texts that are given, by setting. -/
abbrev Lookup := Setting → Option String

/-- The texts of `above`, and those of `below` where `above` gives none. -/
def Lookup.overlay (above below : Lookup) : Lookup :=
  fun setting => (above setting).or (below setting)

/-- The values of variables by name. -/
abbrev Environment := String → Option String

/-- The texts that an environment gives for settings. -/
def Environment.lookup (environment : Environment) : Lookup :=
  fun setting => environment setting.variableName

namespace Config

/-- Reads the given ones of a list of settings in order. The result is the settings as they are
    left, and the error that ended the reading, if one did. -/
def overrideAll (source : Source) (given : Lookup) :
    List Setting → Config → Config × Except Error Unit
  | [], config => (config, .ok ())
  | setting :: rest, config =>
    match given setting with
    | none => overrideAll source given rest config
    | some text =>
      match source.read setting text with
      | .ok change => overrideAll source given rest (change config)
      | .error e => (config, .error e)

/-- A list of settings is read by reading its first part and then, if that met no bad text, the
    rest. -/
theorem overrideAll_append (source : Source) (given : Lookup) (first rest : List Setting)
    (config : Config) :
    overrideAll source given (first ++ rest) config =
      match overrideAll source given first config with
      | (config, .ok ()) => overrideAll source given rest config
      | (config, .error e) => (config, .error e) := by
  induction first generalizing config with
  | nil => rfl
  | cons setting others ih =>
    simp only [List.cons_append, overrideAll]
    split
    · exact ih config
    · split
      · exact ih _
      · rfl

/-- Settings that are not given are left alone. -/
theorem overrideAll_of_none (source : Source) {given : Lookup} {settings : List Setting}
    (h : ∀ setting ∈ settings, given setting = none) (config : Config) :
    overrideAll source given settings config = (config, .ok ()) := by
  induction settings with
  | nil => rfl
  | cons setting rest ih =>
    have hrest : ∀ other ∈ rest, given other = none := fun other hmem => h other (by simp [hmem])
    rw [overrideAll, h setting (by simp)]
    exact ih hrest

/-- Reads all given settings in their order. -/
def override (source : Source) (given : Lookup) (config : Config) : Config × Except Error Unit :=
  overrideAll source given Setting.all config

/-- The settings after a pass that met no bad text. -/
def overridden (source : Source) (given : Lookup) (config : Config) : Except Error Config :=
  let (config, result) := override source given config
  result.map fun _ => config

end Config

end Ramp
