import Ramp.Log.Event
import Ramp.Proofs.Cutting
import Ramp.Proofs.Layering

/-!
# `Proofs.LevelFilter` — the level that is checked, and what the filter lets through

The level in the settings is free text, and two readers take it. The check compares its normal form
with five names. The filter reads the normal form as a list of directives, where besides the names
of levels there are targets, ranks and fields. On what the check accepts the two agree: the filter
is the one directive that the level says, for all targets.

## Contents
- `LoggingSettings.Names`: the texts that name a level; `names_iff_level?`, `isAccepted_iff`:
  exactly these are accepted.
- `Filter.upTo`: the filter that a level alone gives, with what it lets through: `receive?_upTo`,
  `admitsSpan_upTo`.
- `ofSettings_of_refused`, `ofSettings_of_ok`, `ofSettings_of_stopped`: whether the settings matter
  for the filter, and whether there is one.
- `LoggingSettings.ofSettings_agrees`: the check and the filter together;
  `not_ofSettings_unreadable`: a value with which they are not.
-/

namespace Ramp

namespace Log

variable {level : Level}

namespace Filter

/-- The filter with one directive: up to a level, for all targets. -/
def upTo (level : Level) : Filter :=
  ⟨[{ threshold := .upTo level }], [], .upTo level⟩

/-- **The name of a level is read as nothing but the level**, although it could be a target too. -/
theorem parseLossy_name (level : Level) : parseLossy (Named.name level) = .ok (upTo level) := by
  cases level <;> decide +kernel

/-- Such a filter is written as the level is. -/
theorem text_upTo (level : Level) : (upTo level).text = Named.name level := by
  cases level <;> rfl

/-- What happens within a span is let through as everything else is. -/
theorem admits_upTo (target : String) (other : Level) (names : List String) :
    (upTo level).admits .off target other names = (Threshold.upTo level).admits other := by
  have hoff : Threshold.off.admits other = false := by
    cases other <;> rfl
  unfold admits
  rw [if_neg (by simp [upTo]), hoff, Bool.false_or]
  rfl

/-- A span is heeded exactly if it matters enough. -/
theorem admitsSpan_upTo (span : Span) :
    (upTo level).admitsSpan span = true ↔ span.level.verbosity ≤ level.verbosity := by
  have hgeneral : (upTo level).admitsGenerally span.level (·.covers span.target) =
      (Threshold.upTo level).admits span.level := rfl
  have hlimit : (upTo level).limit.admits span.level =
      (Threshold.upTo level).admits span.level := rfl
  unfold admitsSpan
  rw [hgeneral, hlimit, show (upTo level).spans = [] from rfl, List.any_nil, Bool.false_or,
    Bool.and_self]
  exact decide_eq_true_iff

/-! ## Whether the settings matter -/

variable {value : Option String} {settings : LoggingSettings}

/-- Where the value is no filter, the settings say what is let through. -/
theorem ofSettings_of_refused (h : ofValue value = .error .refused) :
    ofSettings value settings = parseLossy settings.normalizedLevel := by
  rw [ofSettings, h]

/-- Where it is one, they say nothing. -/
theorem ofSettings_of_ok {filter : Filter} (h : ofValue value = .ok filter) :
    ofSettings value settings = .ok filter := by
  rw [ofSettings, h]

/-- Where it stops the reading, there is no filter at all. -/
theorem ofSettings_of_stopped {message : String} (h : ofValue value = .error (.stopped message)) :
    ofSettings value settings = .error message := by
  rw [ofSettings, h]

/-- Only the normal form of the level matters at all. -/
theorem ofSettings_congr {other : LoggingSettings}
    (h : other.normalizedLevel = settings.normalizedLevel) :
    ofSettings value other = ofSettings value settings := by
  rw [ofSettings, ofSettings, h]

/-- **The filter of a level in the settings** is this level. -/
theorem ofSettings_eq_upTo (h : ofValue value = .error .refused)
    (hlevel : settings.level? = some level) : ofSettings value settings = .ok (upTo level) := by
  rw [ofSettings_of_refused h, ← Named.ofName?_eq_some_iff.mp hlevel]
  exact parseLossy_name level

/-- An empty value is a filter without directives. -/
theorem ofValue_empty : ofValue (some "") = .ok (ofDirectives []) := by
  decide +kernel

/-- Where nothing stops the reading, a level in the settings leads to some filter. -/
theorem exists_ofSettings_of_not_stops (h : ¬ Stops value) (hlevel : settings.level? = some level) :
    ∃ filter, ofSettings value settings = .ok filter := by
  cases hvalue : ofValue value with
  | ok filter => exact ⟨filter, ofSettings_of_ok hvalue⟩
  | error fault =>
    cases fault with
    | refused => exact ⟨_, ofSettings_eq_upTo hvalue hlevel⟩
    | stopped message => exact absurd ⟨message, hvalue⟩ h

end Filter

/-- **The receiver for a level in the settings** lets through what this level says. -/
theorem Receiver.ofSettings_eq_upTo {value : Option String} {settings : LoggingSettings}
    (h : Filter.ofValue value = .error .refused) (hlevel : settings.level? = some level) :
    Receiver.ofSettings value settings = .ok ⟨.upTo level, settings.format⟩ := by
  rw [Receiver.ofSettings, Filter.ofSettings_eq_upTo h hlevel]
  rfl

/-- **An event is received exactly if it matters enough**, within a run or not. -/
theorem Receiver.receive?_upTo (format : LogFormat) (run : Option SequenceSettings)
    (event : Event) :
    (⟨.upTo level, format⟩ : Receiver).receive? run event =
      if event.level.verbosity ≤ level.verbosity then
        some ⟨event, run.filter fun settings => (Filter.upTo level).admitsSpan (runSpan settings)⟩
      else none := by
  have hscope : ∀ span, (Filter.upTo level).within span = .off := fun _ => rfl
  have hadmits : (Threshold.upTo level).admits event.level = true ↔
      event.level.verbosity ≤ level.verbosity := decide_eq_true_iff
  unfold receive?
  cases run.filter fun settings => (Filter.upTo level).admitsSpan (runSpan settings) <;>
    simp only [hscope, Filter.admits_upTo, hadmits]

end Log

namespace LoggingSettings

open Log

variable {settings other : LoggingSettings} {level : Level}

/-! ## What the check accepts -/

/-- The check lets the level in some settings pass. -/
def IsAccepted (settings : LoggingSettings) : Prop :=
  ∃ config : Config, config.logging = settings ∧ config.validate = .ok ()

/-- A text names a level, in any ASCII case, and with blanks around it or none. -/
def Names (text : String) (level : Level) : Prop :=
  ∃ front word back, text.toList = front ++ word ++ back ∧
    (∀ c ∈ front, Text.isBlank c = true) ∧ (∀ c ∈ back, Text.isBlank c = true) ∧
    word.map Char.toLower = (Named.name level).toList

/-- The check gives the same verdict on two levels, whatever else is configured: both pass, or both
    are what it reports. -/
def SameVerdict (settings other : LoggingSettings) : Prop :=
  ∀ config : Config,
    ({ config with logging := settings }.validate = .ok () ↔
      { config with logging := other }.validate = .ok ()) ∧
    ({ config with logging := settings }.validate = .error (.config (.logLevel settings.level)) ↔
      { config with logging := other }.validate = .error (.config (.logLevel other.level)))

/-- There are no blanks in the name of a level. -/
theorem trimChars_name (level : Level) :
    Text.trimChars (Named.name level).toList = (Named.name level).toList := by
  cases level <;> rfl

/-- **The texts that name a level** are those whose normal form is its name. -/
theorem names_iff_level? : Names settings.level level ↔ settings.level? = some level := by
  rw [level?, Named.ofName?_eq_some_iff]
  constructor
  · rintro ⟨front, word, back, htext, hfront, hback, hword⟩
    apply String.toList_injective
    rw [normalizedLevel, Text.toList_normalize, htext, Text.trimChars_append hfront hback,
      ← Text.trimChars_map_toLower, hword, trimChars_name]
  · intro h
    obtain ⟨front, back, hfront, hback, htext⟩ := Text.exists_append_trimChars settings.level.toList
    refine ⟨front, Text.trimChars settings.level.toList, back, htext, hfront, hback, ?_⟩
    rw [h, normalizedLevel, Text.toList_normalize]

/-- Some settings, and so all, are fit for a level that the check knows. -/
theorem isAccepted_iff : settings.IsAccepted ↔ ∃ level, Names settings.level level := by
  simp only [names_iff_level?, ← Option.isSome_iff_exists]
  constructor
  · rintro ⟨config, rfl, hvalid⟩
    exact (Config.validate_eq_ok_iff.mp hvalid).2.2
  · intro h
    have hmax : ({} : SequenceSettings).maxLength ≠ 0 := by decide
    have hlength : ({} : SequenceSettings).length ≤ ({} : SequenceSettings).maxLength := by decide
    exact ⟨{ logging := settings }, rfl, Config.validate_eq_ok_iff.mpr ⟨hmax, hlength, h⟩⟩

/-- The level is what the check reports if the lengths are right and there is no such level. -/
theorem validate_eq_logLevel_iff (config : Config) :
    config.validate = .error (.config (.logLevel config.logging.level)) ↔
      1 ≤ config.sequence.maxLength.toNat ∧
        config.sequence.length.toNat ≤ config.sequence.maxLength.toNat ∧
        config.logging.normalizedLevel ∉ Config.levelNames := by
  rw [Config.validate_eq_error_iff]
  constructor
  · rintro ⟨problem, hflaw, hproblem⟩
    cases hflaw with
    | noLength => cases hproblem
    | length => cases hproblem
    | level hmax hlength hlevel => exact ⟨hmax, hlength, hlevel⟩
  · rintro ⟨hmax, hlength, hlevel⟩
    exact ⟨_, .level hmax hlength hlevel, rfl⟩

/-- **The verdict goes by the normal form.** -/
theorem sameVerdict_of_normalizedLevel (h : other.normalizedLevel = settings.normalizedLevel) :
    SameVerdict settings other := by
  intro config
  have hlevel : other.level? = settings.level? := congrArg Named.ofName? h
  constructor
  · simp only [Config.validate_eq_ok_iff, Config.IsValid, hlevel]
  · have hreport := fun settings => validate_eq_logLevel_iff { config with logging := settings }
    rw [hreport settings, hreport other, h]

/-! ## Main result -/

/-- **What the check takes for a level, the filter takes for this level.**

    The check accepts exactly the texts that name one of the five levels. Where the variable is no
    filter, the filter of such a text is the one directive of its normal form, so that events and
    spans get through exactly if they are as severe as the level or more so. Only the normal form
    matters, and it is its own normal form. Where the variable is a filter, and the empty one is,
    the settings do not matter. The one thing in the way of a level is a variable that stops the
    reading: it does so whatever the settings are. -/
theorem ofSettings_agrees (value : Option String) (settings : LoggingSettings) :
    (settings.IsAccepted ↔ ∃ level, Names settings.level level) ∧
    (Filter.ofValue value = .error .refused → ∀ level, Names settings.level level →
      settings.normalizedLevel = Named.name level ∧
      Filter.ofSettings value settings = .ok (.upTo level) ∧
      (Filter.upTo level).text = settings.normalizedLevel ∧
      Receiver.ofSettings value settings = .ok ⟨.upTo level, settings.format⟩ ∧
      (∀ run event, ((⟨.upTo level, settings.format⟩ : Receiver).receive? run event).isSome ↔
        event.level.verbosity ≤ level.verbosity) ∧
      ∀ span, (Filter.upTo level).admitsSpan span ↔
        span.level.verbosity ≤ level.verbosity) ∧
    { settings with level := settings.normalizedLevel }.normalizedLevel =
      settings.normalizedLevel ∧
    (∀ other, other.normalizedLevel = settings.normalizedLevel →
      Filter.ofSettings value other = Filter.ofSettings value settings ∧
      SameVerdict settings other) ∧
    (∀ filter, Filter.ofValue value = .ok filter →
      ∀ other, Filter.ofSettings value other = .ok filter) ∧
    Filter.ofValue none = .error .refused ∧ Filter.ofValue (some "") = .ok (.ofDirectives []) ∧
    ∀ level, Names settings.level level →
      ((∃ filter, Filter.ofSettings value settings = .ok filter) ↔ ¬ Filter.Stops value) := by
  refine ⟨isAccepted_iff, ?_, Text.normalize_normalize settings.level, ?_, ?_, rfl,
    Filter.ofValue_empty, ?_⟩
  · intro hvalue level hnames
    have hlevel := names_iff_level?.mp hnames
    have hname := Named.ofName?_eq_some_iff.mp hlevel
    have hfilter := Filter.ofSettings_eq_upTo hvalue hlevel
    refine ⟨hname.symm, hfilter, ?_, Receiver.ofSettings_eq_upTo hvalue hlevel, ?_,
      fun span => Filter.admitsSpan_upTo span⟩
    · rw [Filter.text_upTo, hname]
    · intro run event
      rw [Receiver.receive?_upTo]
      by_cases hsevere : event.level.verbosity ≤ level.verbosity <;> simp [hsevere]
  · intro other h
    exact ⟨Filter.ofSettings_congr h, sameVerdict_of_normalizedLevel h⟩
  · intro filter hfilter other
    exact Filter.ofSettings_of_ok hfilter
  · intro level hnames
    constructor
    · rintro ⟨filter, hfilter⟩ ⟨message, hstopped⟩
      rw [Filter.ofSettings_of_stopped hstopped] at hfilter
      cases hfilter
    · intro hstops
      exact Filter.exists_ofSettings_of_not_stops hstops (names_iff_level?.mp hnames)

/-- A level in mixed case with blanks around it, where the variable is no filter; and an empty
    variable, which hides the level. -/
theorem ofSettings_agrees_debug :
    (Filter.ofSettings (some "a=b=c") { level := " DeBug\u3000" } = .ok (.upTo .debug) ∧
      Filter.ofSettings (some "a=b=c") { level := "debug" } = .ok (.upTo .debug)) ∧
    Filter.ofSettings (some "") { level := " DeBug\u3000" } = .ok (.ofDirectives []) := by
  have hrefused : Filter.ofValue (some "a=b=c") = .error .refused := by decide +kernel
  have hnames : Names " DeBug\u3000" .debug :=
    ⟨[' '], "DeBug".toList, ['\u3000'], rfl, by simp [Text.isBlank], by simp [Text.isBlank], rfl⟩
  obtain ⟨-, hlevel, -, hsame, -⟩ :=
    ofSettings_agrees (some "a=b=c") { level := " DeBug\u3000" }
  obtain ⟨-, -, -, -, hvalue, -, hempty, -⟩ :=
    ofSettings_agrees (some "") { level := " DeBug\u3000" }
  have hfilter := (hlevel hrefused .debug hnames).2.1
  refine ⟨⟨hfilter, ?_⟩, hvalue _ hempty _⟩
  rw [(hsame { level := "debug" } (by decide +kernel)).1]
  exact hfilter

/-- **A level that the check accepts need not lead to its filter** where the variable is no filter:
    with one that begins with a blank of three bytes there is no filter at all. -/
theorem not_ofSettings_unreadable :
    (({ level := "info" } : LoggingSettings).IsAccepted ∧ Names "info" .info) ∧
    (¬ ∃ filter, Filter.ofValue (some Filter.unreadableValue) = .ok filter) ∧
    ¬ ∃ filter, Filter.ofSettings (some Filter.unreadableValue) { level := "info" } =
      .ok filter := by
  have hstopped := Filter.ofValue_unreadableValue
  have hnames : Names "info" .info := ⟨[], "info".toList, [], rfl, by simp, by simp, rfl⟩
  refine ⟨⟨isAccepted_iff.mpr ⟨.info, hnames⟩, hnames⟩, ?_, ?_⟩
  · rintro ⟨filter, hfilter⟩
    rw [hstopped] at hfilter
    cases hfilter
  · rintro ⟨filter, hfilter⟩
    rw [Filter.ofSettings_of_stopped hstopped] at hfilter
    cases hfilter

end LoggingSettings

end Ramp
