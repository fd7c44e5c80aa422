import Ramp.Proofs.Succession

/-!
# `Proofs.Interruption` — what a pass leaves that meets a bad text

A pass changes the settings in place, so one that fails leaves settings that are neither those it
found nor those that were asked for. Which ones they are goes by the first bad text alone: they are
what a pass over the texts before it makes of them. From the setting of the bad text on nothing has
been touched, since no reader touches any setting but its own (`value_of_read`), and the error is
made from the bad text and its setting and from nothing else (`Objection`).

## Contents
- `Config.value` and `Config.store`: the value of a setting, and another one in its place.
- `readFlag?_eq_none_iff`: which words are neither on nor off.
- `Source.Accepts` and `Source.Objection`: the texts that can be read, and the errors of the others;
  `exists_read_iff`, `read_of_objection`.
- `Source.FirstBad`: the first bad text; `exists_firstBad`, `exists_error_iff`: when there is one.
- `exists_store_of_read`, `value_of_read`, `value_overrideAll`: what a pass does not touch.
- `override_interrupted`: the main result.
-/

namespace Ramp

/-- The values that a setting can have. -/
def Setting.Value : Setting → Type
  | .length => UInt64
  | .start => Int64
  | .elementType => ElementType
  | .outputFormat => OutputFormat
  | .separator | .logLevel => String
  | .logFormat => LogFormat
  | .metrics => Bool

/-- The value of a setting. -/
def Config.value (config : Config) : (setting : Setting) → setting.Value
  | .length => config.sequence.length
  | .start => config.sequence.start
  | .elementType => config.sequence.elementType
  | .outputFormat => config.output.format
  | .separator => config.output.separator
  | .logLevel => config.logging.level
  | .logFormat => config.logging.format
  | .metrics => config.metrics.enabled

/-- The settings with another value for one of them. -/
def Config.store (config : Config) : (setting : Setting) → setting.Value → Config
  | .length, n => { config with sequence.length := n }
  | .start, n => { config with sequence.start := n }
  | .elementType, ty => { config with sequence.elementType := ty }
  | .outputFormat, format => { config with output.format := format }
  | .separator, separator => { config with output.separator := separator }
  | .logLevel, level => { config with logging.level := level }
  | .logFormat, format => { config with logging.format := format }
  | .metrics, enabled => { config with metrics.enabled := enabled }

/-! ## Good and bad texts -/

/-- A word is neither on nor off exactly if it is none of the words. -/
theorem readFlag?_eq_none_iff {text : String} :
    readFlag? text = none ↔ Text.normalize text ∉ flagWords.map Prod.fst := by
  unfold readFlag?
  rw [List.lookup_eq_none_iff]
  constructor
  · intro hnone hmem
    obtain ⟨word, hword, hsame⟩ := List.mem_map.mp hmem
    exact absurd (beq_iff_eq.mpr hsame.symm) (by simpa using hnone word hword)
  · intro hmem word hword
    have hne : Text.normalize text ≠ word.1 := by
      intro hsame
      exact hmem (hsame ▸ List.mem_map_of_mem hword)
    simpa using hne

namespace Source

/-- **The texts that can be read** for a setting: numerals of its range, names, or the words for on
    and off. Any text is a separator, and any text is a level until the settings are checked. -/
def Accepts (source : Source) : Setting → String → Prop
  | .length, text => ∃ n, readCount (source.numeralChars text) = .ok n
  | .start, text => ∃ n, readStart (source.numeralChars text) = .ok n
  | .elementType, text => Text.normalize text ∈ Named.names ElementType
  | .outputFormat, text => Text.normalize text ∈ Named.names OutputFormat
  | .separator, _ | .logLevel, _ => True
  | .logFormat, text => Text.normalize text ∈ Named.names LogFormat
  | .metrics, text => Text.normalize text ∈ flagWords.map Prod.fst

/-- **The error of a bad text.** It quotes the text, or says what is wrong with the numeral. -/
inductive Objection : Source → Setting → String → Error → Prop
  | length {source : Source} {text : String} {why : Numeral.Refusal}
      (h : readCount (source.numeralChars text) = .error why) :
      Objection source .length text (source.numeralError .length why)
  | start {source : Source} {text : String} {why : Numeral.Refusal}
      (h : readStart (source.numeralChars text) = .error why) :
      Objection source .start text (source.numeralError .start why)
  | elementTypeVariable {text : String} (h : Text.normalize text ∉ Named.names ElementType) :
      Objection .environment .elementType text
        (.config (.elementTypeSetting "SF_ELEMENT_TYPE" text))
  | elementTypeOption {text : String} (h : Text.normalize text ∉ Named.names ElementType) :
      Objection .commandLine .elementType text (.invalidInput (.elementType text))
  | outputFormat {source : Source} {text : String}
      (h : Text.normalize text ∉ Named.names OutputFormat) :
      Objection source .outputFormat text (.config (.outputFormat text))
  | logFormat {source : Source} {text : String}
      (h : Text.normalize text ∉ Named.names LogFormat) :
      Objection source .logFormat text (.config (.logFormat text))
  | metrics {source : Source} {text : String}
      (h : Text.normalize text ∉ flagWords.map Prod.fst) :
      Objection source .metrics text (.config (.flag "SF_METRICS" text))

variable {source : Source} {texts : Lookup} {setting : Setting} {text : String} {e : Error}

/-- A good text is read. -/
theorem exists_read_of_accepts (h : source.Accepts setting text) :
    ∃ change, source.read setting text = .ok change := by
  cases setting with
  | length =>
    obtain ⟨n, hn⟩ := h
    exact ⟨_, read_length_eq_ok_iff.mpr ⟨n, hn, rfl⟩⟩
  | start =>
    obtain ⟨n, hn⟩ := h
    exact ⟨_, read_start_eq_ok_iff.mpr ⟨n, hn, rfl⟩⟩
  | elementType =>
    obtain ⟨ty, hty⟩ := Named.exists_ofText?_iff.mpr h
    have hread : ElementType.ofText text = .ok ty := by simp only [ElementType.ofText, hty]
    exact ⟨_, read_elementType_eq_ok_iff.mpr ⟨ty, hread, rfl⟩⟩
  | outputFormat =>
    obtain ⟨format, hformat⟩ := Named.exists_ofText?_iff.mpr h
    have hread : OutputFormat.ofText text = .ok format := by
      simp only [OutputFormat.ofText, hformat]
    exact ⟨_, read_outputFormat_eq_ok_iff.mpr ⟨format, hread, rfl⟩⟩
  | separator | logLevel => exact ⟨_, rfl⟩
  | logFormat =>
    obtain ⟨format, hformat⟩ := Named.exists_ofText?_iff.mpr h
    have hread : LogFormat.ofText text = .ok format := by simp only [LogFormat.ofText, hformat]
    exact ⟨_, read_logFormat_eq_ok_iff.mpr ⟨format, hread, rfl⟩⟩
  | metrics =>
    cases hword : readFlag? text with
    | none => exact absurd h (readFlag?_eq_none_iff.mp hword)
    | some enabled => exact ⟨_, read_metrics_eq_ok_iff.mpr ⟨enabled, hword, rfl⟩⟩

/-- Every bad text has its error. -/
theorem exists_objection (h : ¬ source.Accepts setting text) :
    ∃ e, source.Objection setting text e := by
  cases setting with
  | length =>
    cases hread : readCount (source.numeralChars text) with
    | ok n => exact absurd ⟨n, hread⟩ h
    | error why => exact ⟨_, .length hread⟩
  | start =>
    cases hread : readStart (source.numeralChars text) with
    | ok n => exact absurd ⟨n, hread⟩ h
    | error why => exact ⟨_, .start hread⟩
  | elementType =>
    cases source with
    | environment => exact ⟨_, .elementTypeVariable h⟩
    | commandLine => exact ⟨_, .elementTypeOption h⟩
  | outputFormat => exact ⟨_, .outputFormat h⟩
  | separator | logLevel => exact absurd trivial h
  | logFormat => exact ⟨_, .logFormat h⟩
  | metrics => exact ⟨_, .metrics h⟩

/-- **A reader reports the error of a bad text.** -/
theorem read_of_objection (h : source.Objection setting text e) :
    source.read setting text = .error e := by
  cases h with
  | length hread | start hread => simp only [read, hread]
  | elementTypeVariable hname =>
    have hnone := Named.ofText?_eq_none_iff.mpr hname
    simp only [read, readElementType, ElementType.ofText, hnone]
    rfl
  | elementTypeOption hname =>
    have hnone := Named.ofText?_eq_none_iff.mpr hname
    simp only [read, readElementType, ElementType.ofText, hnone]
    rfl
  | outputFormat hname =>
    have hnone := Named.ofText?_eq_none_iff.mpr hname
    simp only [read, OutputFormat.ofText, hnone]
    rfl
  | logFormat hname =>
    have hnone := Named.ofText?_eq_none_iff.mpr hname
    simp only [read, LogFormat.ofText, hnone]
    rfl
  | metrics hword => simp only [read, readFlag?_eq_none_iff.mpr hword, Setting.variableName]

/-- **Exactly the good texts are read.** -/
theorem exists_read_iff :
    (∃ change, source.read setting text = .ok change) ↔ source.Accepts setting text := by
  constructor
  · rintro ⟨change, hread⟩
    by_cases hgood : source.Accepts setting text
    · exact hgood
    · obtain ⟨e, he⟩ := exists_objection hgood
      rw [read_of_objection he] at hread
      cases hread
  · exact exists_read_of_accepts

/-! ## The first bad text -/

/-- **The first bad text**: `text` is given for `setting` and cannot be read, and all that is given
    for the settings before it, in the order of the settings, can. -/
structure FirstBad (source : Source) (texts : Lookup) (before : List Setting) (setting : Setting)
    (after : List Setting) (text : String) : Prop where
  order : Setting.all = before ++ setting :: after
  accepts_before : ∀ earlier ∈ before, ∀ other, texts earlier = some other →
    source.Accepts earlier other
  given : texts setting = some text
  bad : ¬ source.Accepts setting text

end Source

namespace Config

variable {source : Source} {texts : Lookup} {setting other : Setting} {text : String}
  {before after : List Setting} {change : Config → Config} {e : Error}

/-- A pass that fails has met a first bad text. -/
theorem exists_firstBad {config : Config} (h : (override source texts config).2 = .error e) :
    ∃ before setting after text, source.FirstBad texts before setting after text := by
  obtain ⟨before, setting, after, text, hall, hbefore, htext, hbad⟩ :=
    overridden_eq_error_iff.mp (overridden_eq_error_iff_overrideAll.mpr h)
  refine ⟨before, setting, after, text, hall, ?_, htext, ?_⟩
  · intro earlier hearlier other hother
    exact Source.exists_read_iff.mp (hbefore earlier hearlier other hother)
  · intro haccepts
    obtain ⟨change, hchange⟩ := Source.exists_read_of_accepts haccepts
    rw [hbad] at hchange
    cases hchange

/-- **A pass fails exactly if some text that is given is bad.** -/
theorem exists_error_iff {config : Config} :
    (∃ e, (override source texts config).2 = .error e) ↔
      ∃ setting text, texts setting = some text ∧ ¬ source.Accepts setting text := by
  constructor
  · rintro ⟨e, he⟩
    obtain ⟨before, setting, after, text, hfirst⟩ := exists_firstBad he
    exact ⟨setting, text, hfirst.given, hfirst.bad⟩
  · rintro ⟨setting, text, htext, hbad⟩
    cases hpass : (override source texts config).2 with
    | error e => exact ⟨e, rfl⟩
    | ok done =>
      have hread := exists_change_iff.mp (snd_overrideAll_eq_ok_iff.mp hpass setting
        setting.mem_all) text htext
      exact absurd (Source.exists_read_iff.mp hread) hbad

/-! ## What a pass does not touch -/

/-- A text that is read is read as a value of its setting. -/
theorem exists_store_of_read (hread : source.read setting text = .ok change) :
    ∃ value : setting.Value, change = fun config => config.store setting value := by
  cases setting with
  | length =>
    obtain ⟨n, -, rfl⟩ := Source.read_length_eq_ok_iff.mp hread
    exact ⟨n, rfl⟩
  | start =>
    obtain ⟨n, -, rfl⟩ := Source.read_start_eq_ok_iff.mp hread
    exact ⟨n, rfl⟩
  | elementType =>
    obtain ⟨ty, -, rfl⟩ := Source.read_elementType_eq_ok_iff.mp hread
    exact ⟨ty, rfl⟩
  | outputFormat =>
    obtain ⟨format, -, rfl⟩ := Source.read_outputFormat_eq_ok_iff.mp hread
    exact ⟨format, rfl⟩
  | separator | logLevel =>
    -- these are their own texts
    cases hread
    exact ⟨text, rfl⟩
  | logFormat =>
    obtain ⟨format, -, rfl⟩ := Source.read_logFormat_eq_ok_iff.mp hread
    exact ⟨format, rfl⟩
  | metrics =>
    obtain ⟨enabled, -, rfl⟩ := Source.read_metrics_eq_ok_iff.mp hread
    exact ⟨enabled, rfl⟩

/-- To store a value for one setting keeps the others. -/
theorem value_store_of_ne (hne : other ≠ setting) (value : setting.Value) (config : Config) :
    (config.store setting value).value other = config.value other := by
  cases setting <;> cases other <;> first | rfl | exact absurd rfl hne

/-- **Reading a text for one setting keeps the others.** -/
theorem value_of_read (hread : source.read setting text = .ok change) (hne : other ≠ setting)
    (config : Config) : (change config).value other = config.value other := by
  obtain ⟨value, rfl⟩ := exists_store_of_read hread
  exact value_store_of_ne hne value config

/-- **A pass keeps what is not given**, wherever it ends. -/
theorem value_overrideAll (hnone : texts other = none) (settings : List Setting)
    (config : Config) :
    (overrideAll source texts settings config).1.value other = config.value other := by
  induction settings generalizing config with
  | nil => rfl
  | cons setting rest ih =>
    unfold overrideAll
    cases htext : texts setting with
    | none => exact ih config
    | some text =>
      have hne : other ≠ setting := by
        rintro rfl
        rw [hnone] at htext
        cases htext
      cases hread : source.read setting text with
      | error e => simp only [hread]
      | ok change =>
        simp only [hread]
        rw [ih (change config), value_of_read hread hne]

/-! ## Main result -/

/-- What is left where a text is the first bad one. -/
theorem override_of_firstBad (hfirst : source.FirstBad texts before setting after text)
    (he : source.Objection setting text e) (config : Config) :
    override source texts config = ((override source (texts.restrict before) config).1, .error e) ∧
      (override source (texts.restrict before) config).2 = .ok () := by
  apply override_of_bad hfirst.order
  · intro earlier hearlier
    refine exists_change_iff.mpr fun other hother => ?_
    exact Source.exists_read_of_accepts (hfirst.accepts_before earlier hearlier other hother)
  · unfold Source.change
    simp only [hfirst.given]
    exact Source.read_of_objection he

/-- **A pass that fails does what comes before the first bad text, and nothing else.** A pass over
    the texts of a source, the variables of an environment or the arguments of a command line, fails
    exactly if one of them cannot be read. Then there is a first bad
    one, and whatever the settings were, they are left as the pass over the texts before it leaves
    them, which does not fail. The setting of the bad text, all behind it and the greatest length
    are as they were. The error is that of the bad text: any other pass over any other settings that
    has the same first bad text for the same setting ends with it too. -/
theorem override_interrupted (source : Source) (texts : Lookup) (config : Config) :
    ((∃ e, (override source texts config).2 = .error e) ↔
      ∃ setting text, texts setting = some text ∧ ¬ source.Accepts setting text) ∧
    ((∃ e, (override source texts config).2 = .error e) →
      ∃ before setting after text, source.FirstBad texts before setting after text) ∧
    ∀ before setting after text, source.FirstBad texts before setting after text →
      ∃ left e, override source texts config = (left, .error e) ∧
        override source (texts.restrict before) config = (left, .ok ()) ∧
        (∀ other ∈ setting :: after, left.value other = config.value other) ∧
        left.sequence.maxLength = config.sequence.maxLength ∧
        source.Objection setting text e ∧
        ∀ texts' before' after' config', source.FirstBad texts' before' setting after' text →
          (override source texts' config').2 = .error e := by
  refine ⟨exists_error_iff, ?_, ?_⟩
  · rintro ⟨e, he⟩
    exact exists_firstBad he
  · intro before setting after text hfirst
    obtain ⟨e, he⟩ := Source.exists_objection hfirst.bad
    obtain ⟨hpass, hok⟩ := override_of_firstBad hfirst he config
    refine ⟨_, e, hpass, Prod.ext rfl hok, ?_, maxLength_override _ _ config, he, ?_⟩
    · intro other hother
      exact value_overrideAll (Lookup.restrict_eq_none hfirst.order hother texts) Setting.all config
    · intro texts' before' after' config' hfirst'
      rw [(override_of_firstBad hfirst' he config').1]

/-- An environment with a length, a first value that is no numeral, and a separator. -/
def badStart : Environment := fun name =>
  List.lookup name [("SF_LENGTH", "7"), ("SF_START", "1x"), ("SF_SEPARATOR", ",")]

/-- Arguments with a length that has a blank in front of it, and with metrics. -/
def badLength : CommandLine.Arguments :=
  (CommandLine.Arguments.empty.withValue .length " 3").withFlag .metrics

/-- In the environment the length is changed and nothing else is; on the command line nothing is. -/
theorem override_interrupted_badStart :
    override .environment badStart.lookup {} =
        ({ sequence.length := 7 }, .error (.config (.numeral "SF_START" .invalidDigit))) ∧
      override .commandLine badLength.lookup {} =
        ({}, .error (.invalidInput (.numeral "length" .invalidDigit))) := by
  have hstart : readStart (Source.environment.numeralChars "1x") = .error .invalidDigit := by rfl
  have hlength : readCount (Source.commandLine.numeralChars " 3") = .error .invalidDigit := by rfl
  constructor
  · have hfirst : Source.environment.FirstBad badStart.lookup [.length] .start
        [.elementType, .outputFormat, .separator, .logLevel, .logFormat, .metrics] "1x" := by
      refine ⟨rfl, ?_, rfl, ?_⟩
      · intro earlier hearlier text htext
        cases List.mem_singleton.mp hearlier
        cases htext
        exact ⟨7, rfl⟩
      · rintro ⟨n, hn⟩
        rw [hstart] at hn
        cases hn
    obtain ⟨-, -, hleft⟩ := override_interrupted .environment badStart.lookup {}
    obtain ⟨left, e, hpass, hbefore, -, -, he, -⟩ := hleft _ _ _ _ hfirst
    have hseven : (override .environment (badStart.lookup.restrict [.length]) {}).1 =
        { sequence.length := 7 } := by
      decide +kernel
    rw [hbefore] at hseven
    cases hseven
    cases he with
    | start hwhy =>
      rw [hstart] at hwhy
      cases hwhy
      exact hpass
  · have hfirst : Source.commandLine.FirstBad badLength.lookup [] .length
        [.start, .elementType, .outputFormat, .separator, .logLevel, .logFormat, .metrics]
        " 3" := by
      refine ⟨rfl, by simp, rfl, ?_⟩
      rintro ⟨n, hn⟩
      rw [hlength] at hn
      cases hn
    obtain ⟨-, -, hleft⟩ := override_interrupted .commandLine badLength.lookup {}
    obtain ⟨left, e, hpass, hbefore, -, -, he, -⟩ := hleft _ _ _ _ hfirst
    have hnone : override .commandLine (badLength.lookup.restrict []) {} = ({}, .ok ()) :=
      overrideAll_of_none .commandLine (fun setting _ => rfl) {}
    rw [hnone] at hbefore
    cases hbefore
    cases he with
    | length hwhy =>
      rw [hlength] at hwhy
      cases hwhy
      exact hpass

end Config

end Ramp
