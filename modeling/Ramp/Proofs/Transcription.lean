import Ramp.Proofs.SettingsText
import Ramp.Proofs.Spelling
import Ramp.Proofs.Succession

/-!
# `Proofs.Transcription` — all settings can be said

Settings are values, and what is said in the environment and on the command line are texts. Every
value of every setting has a text that is read as it, by either source: integers are written in
decimal and members of finite types by name, while a separator and a level are their own texts,
blanks, capitals and all. So settings can be written out as variables or as the words of a command
line and are the same again when these are read, whatever the layers below say. Only the greatest
length cannot be said, and the command line cannot turn metrics off.

## Contents
- `Config.text`: the text of a setting; `Config.values`, with `values_onto`.
- `readCount_repr`, `readStart_repr`, `readFlag?_word`: each kind of text is read back;
  `reads_of_text`: all of them.
- `Config.environment`, with `override_environment`: settings as variables.
- `Config.words` and `Config.arguments`, with `parse_words` and `load_arguments`: settings as words.
- `read_transcription`: the main result.
-/

namespace Ramp

namespace Config

/-! ## Settings as texts -/

/-- The text that says what a setting is. -/
def text (config : Config) : Setting → String
  | .length => config.sequence.length.toNat.repr
  | .start => config.sequence.start.toInt.repr
  | .elementType => Named.name config.sequence.elementType
  | .outputFormat => Named.name config.output.format
  | .separator => config.output.separator
  | .logLevel => config.logging.level
  | .logFormat => Named.name config.logging.format
  | .metrics => if config.metrics.enabled then "true" else "false"

/-- The values of all settings. -/
def values (config : Config) : Overrides where
  length := some config.sequence.length
  start := some config.sequence.start
  elementType := some config.sequence.elementType
  format := some config.output.format
  separator := some config.output.separator
  level := some config.logging.level
  logFormat := some config.logging.format
  metrics := some config.metrics.enabled

/-- Above other settings nothing is seen of these but the greatest length, if metrics come out as
    they should. -/
theorem values_onto {config base : Config} {metrics : Option Bool}
    (hmetrics : metrics.getD base.metrics.enabled = config.metrics.enabled) :
    { config.values with metrics }.onto base =
      { config with sequence.maxLength := base.sequence.maxLength } := by
  simp only [Overrides.onto, values, Option.getD_some, hmetrics]

end Config

namespace Source

variable (source : Source)

/-- Where there is nothing to trim from numerals, a text without blanks is read by either source. -/
theorem read_numeralChars {α : Type} {parse : List Char → Except Numeral.Refusal α} {text : String}
    {a : α} (hparse : ∀ cs a, parse cs = .ok a → Text.trimChars cs = cs)
    (hread : parse text.toList = .ok a) : parse (source.numeralChars text) = .ok a := by
  cases source with
  | environment =>
    show parse (Text.trimChars text.toList) = .ok a
    rw [hparse _ a hread, hread]
  | commandLine => exact hread

/-- An unsigned integer of 64 bits is read as itself. -/
theorem readCount_repr (n : UInt64) :
    readCount (source.numeralChars n.toNat.repr) = .ok n := by
  have hle : n.toNat ≤ UInt64.size - 1 := by
    have := n.toNat_lt_size
    omega
  have hread : readCount n.toNat.repr.toList = .ok n := by
    unfold readCount
    rw [Numeral.readNat_repr hle]
    exact congrArg Except.ok n.ofNat_toNat
  exact source.read_numeralChars (fun _ _ => trimChars_of_readCount) hread

/-- A signed integer of 64 bits is read as itself. -/
theorem readStart_repr (n : Int64) : readStart (source.numeralChars n.toInt.repr) = .ok n := by
  obtain ⟨hlow, hhigh⟩ := Document.toInt_mem_limits n
  have hmin : -(Int64.minValue.toInt.natAbs : Int) = Int64.minValue.toInt := by decide
  have hmax : (Int64.maxValue.toInt.natAbs : Int) = Int64.maxValue.toInt := by decide
  have hread : readStart n.toInt.repr.toList = .ok n := by
    unfold readStart
    rw [Numeral.readInt_repr (hmin ▸ hlow) (hmax ▸ hhigh)]
    exact congrArg Except.ok n.ofInt_toInt
  exact source.read_numeralChars (fun _ _ => trimChars_of_readStart) hread

/-- The words for on and off are read as that. -/
theorem readFlag?_word (enabled : Bool) :
    readFlag? (if enabled then "true" else "false") = some enabled := by
  cases enabled <;> decide +kernel

variable {source}

/-- **The texts of settings have their values.** Of metrics a source may say as much as it can. -/
theorem reads_of_text {config : Config} {texts : Lookup} {metrics : Option Bool}
    (htexts : ∀ setting, setting ≠ .metrics → texts setting = some (config.text setting))
    (hmetrics : (texts .metrics).map readFlag? = metrics.map some) :
    source.Reads texts { config.values with metrics } where
  length := by
    rw [htexts .length (by decide)]
    exact congrArg some (source.readCount_repr config.sequence.length)
  start := by
    rw [htexts .start (by decide)]
    exact congrArg some (source.readStart_repr config.sequence.start)
  elementType := by
    have hread : ElementType.ofText (config.text .elementType) =
        .ok config.sequence.elementType := by
      simp only [ElementType.ofText, Config.text, Named.ofText?_name]
    rw [htexts .elementType (by decide)]
    exact congrArg some hread
  format := by
    have hread : OutputFormat.ofText (config.text .outputFormat) = .ok config.output.format := by
      simp only [OutputFormat.ofText, Config.text, Named.ofText?_name]
    rw [htexts .outputFormat (by decide)]
    exact congrArg some hread
  separator := htexts .separator (by decide)
  level := htexts .logLevel (by decide)
  logFormat := by
    have hread : LogFormat.ofText (config.text .logFormat) = .ok config.logging.format := by
      simp only [LogFormat.ofText, Config.text, Named.ofText?_name]
    rw [htexts .logFormat (by decide)]
    exact congrArg some hread
  metrics := hmetrics

end Source

namespace Config

/-! ## Settings as variables -/

/-- The variables that say what the settings are. -/
def environment (config : Config) : Environment := fun name =>
  List.lookup name
    [("SF_LENGTH", config.sequence.length.toNat.repr),
      ("SF_START", config.sequence.start.toInt.repr),
      ("SF_ELEMENT_TYPE", Named.name config.sequence.elementType),
      ("SF_OUTPUT_FORMAT", Named.name config.output.format),
      ("SF_SEPARATOR", config.output.separator),
      ("SF_LOG_LEVEL", config.logging.level),
      ("SF_LOG_FORMAT", Named.name config.logging.format),
      ("SF_METRICS", if config.metrics.enabled then "true" else "false")]

theorem lookup_environment (config : Config) (setting : Setting) :
    config.environment.lookup setting = some (config.text setting) := by
  cases setting <;> rfl

/-- **Settings are read back from their variables**, whatever the settings were before. -/
theorem override_environment (config base : Config) :
    base.override .environment config.environment.lookup =
      ({ config with sequence.maxLength := base.sequence.maxLength }, .ok ()) := by
  have hreads : Source.environment.Reads config.environment.lookup config.values := by
    refine Source.reads_of_text (fun setting _ => config.lookup_environment setting) ?_
    rw [lookup_environment]
    exact congrArg some (Source.readFlag?_word config.metrics.enabled)
  rw [override_of_reads hreads]
  exact congrArg (·, Except.ok ()) (values_onto rfl)

/-! ## Settings as words -/

/-- The words that say what the settings are. -/
def words (config : Config) : List String :=
  ["--length=" ++ config.sequence.length.toNat.repr,
    "--start=" ++ config.sequence.start.toInt.repr,
    "--type=" ++ Named.name config.sequence.elementType,
    "--format=" ++ Named.name config.output.format,
    "--separator=" ++ config.output.separator,
    "--log-level=" ++ config.logging.level,
    "--log-format=" ++ Named.name config.logging.format] ++
  if config.metrics.enabled then ["--metrics"] else []

/-- The words that name a file of settings. -/
def fileWords : Option String → List String
  | some path => ["--config=" ++ path]
  | none => []

/-- What these words say. -/
def arguments (config : Config) (path : Option String) : CommandLine.Arguments where
  value
    | .config => path
    | .length => some (config.text .length)
    | .start => some (config.text .start)
    | .elementType => some (config.text .elementType)
    | .format => some (config.text .outputFormat)
    | .separator => some (config.text .separator)
    | .logLevel => some (config.text .logLevel)
    | .logFormat => some (config.text .logFormat)
  isSet
    | .four => false
    | .metrics => config.metrics.enabled

end Config

/-- Words that say some things and words that say others say all of them. -/
theorem CommandLine.Spelled.append {sayings sayings' : List Saying} {words words' : List String}
    (h : Spelled sayings words) (h' : Spelled sayings' words') :
    Spelled (sayings ++ sayings') (words ++ words') := by
  induction h with
  | nil => exact h'
  | cons hfirst _ ih =>
    rw [List.append_assoc]
    exact .cons hfirst ih

namespace Config

open CommandLine

/-- The words are spellings of all that they are meant to say. -/
theorem spelled_words (config : Config) (path : Option String) :
    Spelled (config.arguments path).sayings (fileWords path ++ config.words) := by
  have hfile : Spelled (path.map (.value .config)).toList (fileWords path) := by
    cases path with
    | none => exact .nil
    | some path => exact .cons (.longEqual .config path) .nil
  have hvalues : Spelled _ _ :=
    .cons (.longEqual .length (config.text .length)) <|
      .cons (.longEqual .start (config.text .start)) <|
      .cons (.longEqual .elementType (config.text .elementType)) <|
      .cons (.longEqual .format (config.text .outputFormat)) <|
      .cons (.longEqual .separator (config.text .separator)) <|
      .cons (.longEqual .logLevel (config.text .logLevel)) <|
      .cons (.longEqual .logFormat (config.text .logFormat)) .nil
  have hflag : Spelled (if config.metrics.enabled then [.flag .metrics] else [])
      (if config.metrics.enabled then ["--metrics"] else []) := by
    split
    · exact .cons (.flag .metrics) .nil
    · exact .nil
  have hall := hfile.append (hvalues.append hflag)
  -- what is said is listed by options first and by flags then, which is the order of the words
  have hsayings : (config.arguments path).sayings = (path.map (.value .config)).toList ++
      ([.value .length (config.text .length), .value .start (config.text .start),
        .value .elementType (config.text .elementType),
        .value .format (config.text .outputFormat), .value .separator (config.text .separator),
        .value .logLevel (config.text .logLevel),
        .value .logFormat (config.text .logFormat)] ++
        if config.metrics.enabled then [.flag .metrics] else []) := by
    obtain ⟨sequence, output, logging, ⟨enabled⟩⟩ := config
    cases path <;> cases enabled <;> rfl
  rw [hsayings]
  exact hall

/-- **The words are read as what they are meant to say.** -/
theorem parse_words (config : Config) (path : Option String) :
    parse (fileWords path ++ config.words) = .ok (config.arguments path) := by
  refine parseFrom_spelled (config.spelled_words path) (Progress.said_mk .empty)
    (config.arguments path).nodup_sayings ?_ ?_
  · intro saying _ hsaid
    cases saying <;> cases hsaid
  · intro saying
    rw [Arguments.mem_sayings_iff]
    constructor
    · exact .inr
    · rintro (hsaid | hsaid)
      · cases saying <;> cases hsaid
      · exact hsaid

/-- **Settings that can be used are loaded from their words**, whatever the layers below say, if
    these have the same greatest length and do not turn metrics on. -/
theorem load_arguments {config resolved : Config} {disk : Disk} {path file : Option String}
    {default : String} {environment : Lookup}
    (hresolve : resolve disk path default environment = .ok resolved)
    (hmax : resolved.sequence.maxLength = config.sequence.maxLength)
    (hmetrics : resolved.metrics.enabled = config.metrics.enabled ∨ config.metrics.enabled = true)
    (hvalid : config.validate = .ok ()) :
    load disk path default environment (config.arguments file).lookup = .ok config := by
  obtain ⟨below, values, hfile, hbelow, rfl⟩ := resolve_eq_ok_iff.mp hresolve
  have hreads : Source.commandLine.Reads (config.arguments file).lookup
      { config.values with metrics := if config.metrics.enabled then some true else none } := by
    apply Source.reads_of_text
    · intro setting hne
      cases setting with
      | metrics => exact absurd rfl hne
      | _ => rfl
    · show (if config.metrics.enabled then some "true" else none).map readFlag? = _
      cases config.metrics.enabled with
      | true => exact congrArg some (Source.readFlag?_word true)
      | false => rfl
  have hsound := validate_eq_ok_iff_sound.mp hvalid
  refine load_eq_ok_iff.mpr ⟨below, values, _, hfile, hbelow, hreads, ?_, hsound⟩
  -- the flag turns metrics on, and where it is not given the layers below have them right
  have henabled : (if config.metrics.enabled then some true else none).getD
      (values.onto below).metrics.enabled = config.metrics.enabled := by
    cases hconfig : config.metrics.enabled with
    | true => rfl
    | false =>
      rw [hconfig] at hmetrics
      exact hmetrics.resolve_right Bool.false_ne_true
  rw [values_onto henabled, hmax]

/-! ## Main result -/

/-- **All settings can be said and are read back.** A pass over the variables that say what some
    settings are leaves these settings, whatever it starts from, but for the greatest length. And
    settings that can be used are loaded from the words that say what they are, from every disk,
    with every environment and whether a file is named or not, if the layers below load and have the
    same greatest length, and metrics are not on there when they should be off. -/
theorem read_transcription (config : Config) :
    (∀ base : Config, base.override .environment config.environment.lookup =
      ({ config with sequence.maxLength := base.sequence.maxLength }, .ok ())) ∧
    (config.validate = .ok () →
      ∀ (disk : Disk) (path : Option String) (default : String) (environment : Environment)
        (resolved : Config),
        resolve disk path default environment.lookup = .ok resolved →
        resolved.sequence.maxLength = config.sequence.maxLength →
        (resolved.metrics.enabled = config.metrics.enabled ∨ config.metrics.enabled = true) →
        loadWords disk default environment (fileWords path ++ config.words) =
          .ok (.ok config)) := by
  constructor
  · intro base
    exact config.override_environment base
  · intro hvalid disk path default environment resolved hresolve hmax hmetrics
    have hload : load disk path default environment.lookup (config.arguments path).lookup =
        .ok config := load_arguments hresolve hmax hmetrics hvalid
    unfold loadWords
    rw [parse_words]
    exact congrArg Except.ok hload

/-- Settings at the edges of their ranges, with blanks and capitals in their texts. -/
def edgeSettings : Config where
  sequence :=
    { elementType := .i64, start := -9223372036854775808, length := 500, maxLength := 500 }
  output := { format := .json, separator := " =Ab" }
  logging := { level := " WARN", format := .pretty }
  metrics := { enabled := true }

/-- They are said in words above a file and an environment that say something else. -/
theorem read_transcription_edge :
    (Config.override .environment edgeSettings.environment.lookup {} =
      ({ edgeSettings with sequence.maxLength := 16777216 }, .ok ())) ∧
    loadWords oneFile defaultPath someVariables
      ["--length=500", "--start=-9223372036854775808", "--type=i64", "--format=json",
        "--separator= =Ab", "--log-level= WARN", "--log-format=pretty", "--metrics"] =
      .ok (.ok edgeSettings) := by
  obtain ⟨hvariables, hwords⟩ := read_transcription edgeSettings
  have hvalid : edgeSettings.validate = .ok () := by
    rw [validate_eq_ok_iff]
    exact ⟨by decide, by decide, by decide +kernel⟩
  have hresolve : (resolve oneFile none defaultPath someVariables.lookup).toOption =
      some { sequence := { elementType := .u8, start := 2, length := 6, maxLength := 500 }
             metrics := { enabled := false } } := by
    decide +kernel
  have hload := hwords hvalid oneFile none defaultPath someVariables _
    (Except.eq_ok_of_toOption hresolve) rfl (.inr rfl)
  have hsaid : fileWords none ++ edgeSettings.words =
      ["--length=500", "--start=-9223372036854775808", "--type=i64", "--format=json",
        "--separator= =Ab", "--log-level= WARN", "--log-format=pretty", "--metrics"] := by
    decide +kernel
  rw [hsaid] at hload
  exact ⟨hvariables {}, hload⟩

end Config

end Ramp
