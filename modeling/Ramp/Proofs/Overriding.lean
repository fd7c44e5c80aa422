import Ramp.Config.Override
import Ramp.Proofs.Decoding

/-!
# `Proofs.Overriding` — what one source of texts does to the settings

A pass over the settings changes them in place and ends at the first bad text. Both ends have a
description that does not mention the pass: it succeeds exactly when every text that is given is
right, and then every setting, on its own, has the value of its text or the value it had
(`overridden_eq_ok_iff`); and it fails with the error of the first bad text in order, whatever the
settings were before (`overridden_eq_error_iff`).

## Contents
- `Source.change`: what a pass does for one setting; `snd_overrideAll_eq_error_iff`: where it ends.
- `Overrides`, the values that a source gives, and `Overrides.onto`, these above other settings.
- `Source.Reads`: texts and their values; `change_of_reads`, `exists_reads`.
- `Source.FirstError`: the error of the first bad text.
-/

namespace Ramp

namespace Source

/-- What is done for one setting: nothing if no text is given. -/
def change (source : Source) (texts : Lookup) (setting : Setting) :
    Except Error (Config → Config) :=
  match texts setting with
  | none => .ok id
  | some text => source.read setting text

/-- **`e` is the error of the first bad text**: all texts given before it, in the order of the
    settings, are right. -/
def FirstError (source : Source) (texts : Lookup) (e : Error) : Prop :=
  ∃ before setting after text, Setting.all = before ++ setting :: after ∧
    (∀ earlier ∈ before, ∀ text, texts earlier = some text →
      ∃ change, source.read earlier text = .ok change) ∧
    texts setting = some text ∧ source.read setting text = .error e

end Source

namespace Config

variable {source : Source} {texts : Lookup}

/-! ## One pass over a list of settings -/

theorem overrideAll_cons (setting : Setting) (rest : List Setting) (config : Config) :
    overrideAll source texts (setting :: rest) config =
      match source.change texts setting with
      | .ok change => overrideAll source texts rest (change config)
      | .error e => (config, .error e) := by
  rw [overrideAll, Source.change]
  cases texts setting <;> rfl

/-- If every setting has its change, a pass makes one after the other. -/
theorem overrideAll_of_change {changes : Setting → Config → Config} {settings : List Setting}
    (h : ∀ setting ∈ settings, source.change texts setting = .ok (changes setting))
    (config : Config) :
    overrideAll source texts settings config =
      (settings.foldl (fun config setting => changes setting config) config, .ok ()) := by
  induction settings generalizing config with
  | nil => rfl
  | cons setting rest ih =>
    rw [overrideAll_cons, h setting (by simp)]
    exact ih (fun other hother => h other (by simp [hother])) _

/-- A pass succeeds exactly when every setting has its change. -/
theorem snd_overrideAll_eq_ok_iff {settings : List Setting} {config : Config} :
    (overrideAll source texts settings config).2 = .ok () ↔
      ∀ setting ∈ settings, ∃ change, source.change texts setting = .ok change := by
  induction settings generalizing config with
  | nil => simp [overrideAll]
  | cons setting rest ih =>
    rw [overrideAll_cons, List.forall_mem_cons]
    cases source.change texts setting with
    | ok change => simp [ih]
    | error e => simp

/-- **A pass ends at the first bad text**, whatever the settings are. -/
theorem snd_overrideAll_eq_error_iff {settings : List Setting} {config : Config} {e : Error} :
    (overrideAll source texts settings config).2 = .error e ↔
      ∃ before setting after, settings = before ++ setting :: after ∧
        (∀ earlier ∈ before, ∃ change, source.change texts earlier = .ok change) ∧
        source.change texts setting = .error e := by
  induction settings generalizing config with
  | nil => simp [overrideAll]
  | cons first rest ih =>
    rw [overrideAll_cons]
    cases hfirst : source.change texts first with
    | ok change =>
      rw [ih]
      constructor
      · rintro ⟨before, setting, after, rfl, hbefore, hsetting⟩
        refine ⟨first :: before, setting, after, rfl, ?_, hsetting⟩
        exact List.forall_mem_cons.mpr ⟨⟨change, hfirst⟩, hbefore⟩
      · rintro ⟨_ | ⟨_, before⟩, setting, after, heq, hbefore, hsetting⟩
        · -- the first setting is no bad one
          cases heq
          rw [hfirst] at hsetting
          cases hsetting
        · cases heq
          exact ⟨before, setting, after, rfl, (List.forall_mem_cons.mp hbefore).2, hsetting⟩
    | error e' =>
      constructor
      · intro h
        cases h
        exact ⟨[], first, rest, rfl, by simp, hfirst⟩
      · rintro ⟨_ | ⟨_, before⟩, setting, after, heq, hbefore, hsetting⟩
        · cases heq
          rw [hfirst] at hsetting
          cases hsetting
          rfl
        · -- a later error would need the first setting to be right
          cases heq
          obtain ⟨change, hchange⟩ := hbefore first (by simp)
          rw [hfirst] at hchange
          cases hchange

end Config

/-! ## The values that a source gives -/

/-- Values for settings, each one given or not. -/
structure Overrides where
  length : Option UInt64 := none
  start : Option Int64 := none
  elementType : Option ElementType := none
  format : Option OutputFormat := none
  separator : Option String := none
  level : Option String := none
  logFormat : Option LogFormat := none
  metrics : Option Bool := none

namespace Overrides

/-- **Values above other settings.** Each setting, on its own, has the value that is given for it,
    or else the one below. There is no value for the greatest length. -/
def onto (values : Overrides) (below : Config) : Config where
  sequence :=
    { elementType := values.elementType.getD below.sequence.elementType
      start := values.start.getD below.sequence.start
      length := values.length.getD below.sequence.length
      maxLength := below.sequence.maxLength }
  output :=
    { format := values.format.getD below.output.format
      separator := values.separator.getD below.output.separator }
  logging :=
    { level := values.level.getD below.logging.level
      format := values.logFormat.getD below.logging.format }
  metrics :=
    { enabled := values.metrics.getD below.metrics.enabled }

/-- The change that the value for one setting makes. -/
def change (values : Overrides) : Setting → Config → Config
  | .length => fun c => { c with sequence.length := values.length.getD c.sequence.length }
  | .start => fun c => { c with sequence.start := values.start.getD c.sequence.start }
  | .elementType => fun c =>
    { c with sequence.elementType := values.elementType.getD c.sequence.elementType }
  | .outputFormat => fun c => { c with output.format := values.format.getD c.output.format }
  | .separator => fun c => { c with output.separator := values.separator.getD c.output.separator }
  | .logLevel => fun c => { c with logging.level := values.level.getD c.logging.level }
  | .logFormat => fun c => { c with logging.format := values.logFormat.getD c.logging.format }
  | .metrics => fun c => { c with metrics.enabled := values.metrics.getD c.metrics.enabled }

/-- The changes made one after the other put all values above the settings. -/
theorem foldl_change (values : Overrides) (config : Config) :
    Setting.all.foldl (fun config setting => values.change setting config) config =
      values.onto config :=
  rfl

end Overrides

namespace Source

/-- **The values of texts.** A setting has a value exactly when its text is given, and then the text
    is right and this is its value. -/
structure Reads (source : Source) (texts : Lookup) (values : Overrides) : Prop where
  length : (texts .length).map (fun text => readCount (source.numeralChars text)) =
    values.length.map .ok
  start : (texts .start).map (fun text => readStart (source.numeralChars text)) =
    values.start.map .ok
  elementType : (texts .elementType).map ElementType.ofText = values.elementType.map .ok
  format : (texts .outputFormat).map OutputFormat.ofText = values.format.map .ok
  separator : texts .separator = values.separator
  level : texts .logLevel = values.level
  logFormat : (texts .logFormat).map LogFormat.ofText = values.logFormat.map .ok
  metrics : (texts .metrics).map readFlag? = values.metrics.map some

variable {source : Source} {texts : Lookup} {values : Overrides}

/-! ### Which texts are right, and the change that a right one makes -/

theorem read_length_eq_ok_iff {text : String} {change : Config → Config} :
    source.read .length text = .ok change ↔
      ∃ n, readCount (source.numeralChars text) = .ok n ∧
        change = fun c => { c with sequence.length := n } := by
  cases h : readCount (source.numeralChars text) <;> simp [read, h, eq_comm]

theorem read_start_eq_ok_iff {text : String} {change : Config → Config} :
    source.read .start text = .ok change ↔
      ∃ n, readStart (source.numeralChars text) = .ok n ∧
        change = fun c => { c with sequence.start := n } := by
  cases h : readStart (source.numeralChars text) <;> simp [read, h, eq_comm]

/-- Both sources read the same names of element types. -/
theorem readElementType_eq_ok_iff {text : String} {ty : ElementType} :
    source.readElementType text = .ok ty ↔ ElementType.ofText text = .ok ty := by
  cases source with
  | environment =>
    -- only the error of a bad name is another one
    rw [readElementType]
    cases ElementType.ofText text with
    | ok other => exact Iff.rfl
    | error e => constructor <;> intro h <;> cases h
  | commandLine => rfl

theorem read_elementType_eq_ok_iff {text : String} {change : Config → Config} :
    source.read .elementType text = .ok change ↔
      ∃ ty, ElementType.ofText text = .ok ty ∧
        change = fun c => { c with sequence.elementType := ty } := by
  rw [read, Except.bind_eq_ok_iff]
  constructor
  · rintro ⟨ty, hty, hchange⟩
    exact ⟨ty, readElementType_eq_ok_iff.mp hty, (Except.ok.inj hchange).symm⟩
  · rintro ⟨ty, hty, rfl⟩
    exact ⟨ty, readElementType_eq_ok_iff.mpr hty, rfl⟩

theorem read_outputFormat_eq_ok_iff {text : String} {change : Config → Config} :
    source.read .outputFormat text = .ok change ↔
      ∃ format, OutputFormat.ofText text = .ok format ∧
        change = fun c => { c with output.format := format } := by
  cases h : OutputFormat.ofText text <;>
    simp [read, h, bind, Except.bind, pure, Except.pure, eq_comm]

theorem read_logFormat_eq_ok_iff {text : String} {change : Config → Config} :
    source.read .logFormat text = .ok change ↔
      ∃ format, LogFormat.ofText text = .ok format ∧
        change = fun c => { c with logging.format := format } := by
  cases h : LogFormat.ofText text <;>
    simp [read, h, bind, Except.bind, pure, Except.pure, eq_comm]

theorem read_metrics_eq_ok_iff {text : String} {change : Config → Config} :
    source.read .metrics text = .ok change ↔
      ∃ enabled, readFlag? text = some enabled ∧
        change = fun c => { c with metrics.enabled := enabled } := by
  cases h : readFlag? text <;> simp [read, h, eq_comm]

/-! ### Values and changes -/

/-- A setting whose text has a value is changed by `store` of this value, if `store` of no value
    changes nothing and a text is read as `store` of its value. -/
theorem change_eq_store {α β : Type} {setting : Setting} {parse : String → β} {done : α → β}
    {value : Option α} (store : Option α → Config → Config)
    (hvalue : (texts setting).map parse = value.map done) (hnone : store none = id)
    (hread : ∀ text a, parse text = done a → source.read setting text = .ok (store (some a))) :
    source.change texts setting = .ok (store value) := by
  rw [change]
  cases htext : texts setting with
  | none =>
    rw [htext] at hvalue
    cases value with
    | none => rw [hnone]
    | some a => cases hvalue
  | some text =>
    rw [htext] at hvalue
    cases value with
    | none => cases hvalue
    | some a => exact hread text a (Option.some.inj hvalue)

/-- A setting that has its change has a value exactly if its text is given. -/
theorem exists_value_of_change {α β : Type} {setting : Setting} {parse : String → β} {done : α → β}
    (hchange : ∃ change, source.change texts setting = .ok change)
    (hread : ∀ text change, source.read setting text = .ok change → ∃ a, parse text = done a) :
    ∃ value : Option α, (texts setting).map parse = value.map done := by
  obtain ⟨made, hmade⟩ := hchange
  rw [change] at hmade
  cases htext : texts setting with
  | none => exact ⟨none, rfl⟩
  | some text =>
    rw [htext] at hmade
    obtain ⟨a, ha⟩ := hread text made hmade
    exact ⟨some a, congrArg some ha⟩

/-- Texts that are right make the changes of their values. -/
theorem change_of_reads (h : source.Reads texts values) (setting : Setting) :
    source.change texts setting = .ok (values.change setting) := by
  cases setting with
  | length =>
    exact change_eq_store (fun v c => { c with sequence.length := v.getD c.sequence.length })
      h.length rfl fun text n hn => read_length_eq_ok_iff.mpr ⟨n, hn, rfl⟩
  | start =>
    exact change_eq_store (fun v c => { c with sequence.start := v.getD c.sequence.start })
      h.start rfl fun text n hn => read_start_eq_ok_iff.mpr ⟨n, hn, rfl⟩
  | elementType =>
    exact change_eq_store
      (fun v c => { c with sequence.elementType := v.getD c.sequence.elementType })
      h.elementType rfl fun text ty hty => read_elementType_eq_ok_iff.mpr ⟨ty, hty, rfl⟩
  | outputFormat =>
    exact change_eq_store (fun v c => { c with output.format := v.getD c.output.format })
      h.format rfl fun text format hformat =>
        read_outputFormat_eq_ok_iff.mpr ⟨format, hformat, rfl⟩
  | separator =>
    -- a separator is its own text, and so is a level
    have hvalue : (texts .separator).map id = values.separator.map id := by
      simpa using h.separator
    exact change_eq_store (fun v c => { c with output.separator := v.getD c.output.separator })
      hvalue rfl fun _ _ htext => congrArg (fun text => source.read .separator text) htext
  | logLevel =>
    have hvalue : (texts .logLevel).map id = values.level.map id := by
      simpa using h.level
    exact change_eq_store (fun v c => { c with logging.level := v.getD c.logging.level })
      hvalue rfl fun _ _ htext => congrArg (fun text => source.read .logLevel text) htext
  | logFormat =>
    exact change_eq_store (fun v c => { c with logging.format := v.getD c.logging.format })
      h.logFormat rfl fun text format hformat =>
        read_logFormat_eq_ok_iff.mpr ⟨format, hformat, rfl⟩
  | metrics =>
    exact change_eq_store (fun v c => { c with metrics.enabled := v.getD c.metrics.enabled })
      h.metrics rfl fun text enabled henabled =>
        read_metrics_eq_ok_iff.mpr ⟨enabled, henabled, rfl⟩

/-- If every setting has its change, the texts have values. -/
theorem exists_reads (h : ∀ setting, ∃ change, source.change texts setting = .ok change) :
    ∃ values, source.Reads texts values := by
  obtain ⟨length, hlength⟩ := exists_value_of_change (h .length) fun _ _ hread =>
    (read_length_eq_ok_iff.mp hread).imp fun _ hn => hn.1
  obtain ⟨start, hstart⟩ := exists_value_of_change (h .start) fun _ _ hread =>
    (read_start_eq_ok_iff.mp hread).imp fun _ hn => hn.1
  obtain ⟨elementType, htype⟩ := exists_value_of_change (h .elementType) fun _ _ hread =>
    (read_elementType_eq_ok_iff.mp hread).imp fun _ hty => hty.1
  obtain ⟨format, hformat⟩ := exists_value_of_change (h .outputFormat) fun _ _ hread =>
    (read_outputFormat_eq_ok_iff.mp hread).imp fun _ hformat => hformat.1
  obtain ⟨logFormat, hlog⟩ := exists_value_of_change (h .logFormat) fun _ _ hread =>
    (read_logFormat_eq_ok_iff.mp hread).imp fun _ hformat => hformat.1
  obtain ⟨metrics, hmetrics⟩ := exists_value_of_change (h .metrics) fun _ _ hread =>
    (read_metrics_eq_ok_iff.mp hread).imp fun _ henabled => henabled.1
  refine ⟨⟨length, start, elementType, format, texts .separator, texts .logLevel, logFormat,
    metrics⟩, ?_⟩
  exact ⟨hlength, hstart, htype, hformat, rfl, rfl, hlog, hmetrics⟩

end Source

/-! ## One pass -/

namespace Config

variable {source : Source} {texts : Lookup} {values : Overrides} {config result : Config}

theorem overridden_eq_ok_iff_overrideAll :
    config.overridden source texts = .ok result ↔
      overrideAll source texts Setting.all config = (result, .ok ()) := by
  rw [overridden, override]
  rcases overrideAll source texts Setting.all config with ⟨after, e | _⟩ <;> simp [Except.map]

theorem overridden_eq_error_iff_overrideAll {e : Error} :
    config.overridden source texts = .error e ↔
      (overrideAll source texts Setting.all config).2 = .error e := by
  rw [overridden, override]
  rcases overrideAll source texts Setting.all config with ⟨after, e | _⟩ <;> simp [Except.map]

/-- Texts that are right put their values above the settings. -/
theorem overridden_of_reads (h : source.Reads texts values) (config : Config) :
    config.overridden source texts = .ok (values.onto config) := by
  rw [overridden_eq_ok_iff_overrideAll,
    overrideAll_of_change fun setting _ => Source.change_of_reads h setting, values.foldl_change]

/-- **A pass succeeds exactly when all given texts are right**, and then their values are above the
    settings. -/
theorem overridden_eq_ok_iff :
    config.overridden source texts = .ok result ↔
      ∃ values, source.Reads texts values ∧ result = values.onto config := by
  constructor
  · intro h
    have hok := congrArg Prod.snd (overridden_eq_ok_iff_overrideAll.mp h)
    -- every setting has its change, so the texts have values; and these fix the result
    obtain ⟨values, hvalues⟩ := Source.exists_reads fun setting =>
      snd_overrideAll_eq_ok_iff.mp hok setting setting.mem_all
    rw [overridden_of_reads hvalues] at h
    cases h
    exact ⟨values, hvalues, rfl⟩
  · rintro ⟨values, hvalues, rfl⟩
    exact overridden_of_reads hvalues config

/-- A setting has its change exactly if its text, when given, is right. -/
theorem exists_change_iff {setting : Setting} :
    (∃ change, source.change texts setting = .ok change) ↔
      ∀ text, texts setting = some text → ∃ change, source.read setting text = .ok change := by
  rw [Source.change]
  cases texts setting <;> simp

/-- **A pass fails with the error of the first bad text**, whatever the settings are. -/
theorem overridden_eq_error_iff {e : Error} :
    config.overridden source texts = .error e ↔ source.FirstError texts e := by
  rw [overridden_eq_error_iff_overrideAll, snd_overrideAll_eq_error_iff, Source.FirstError]
  simp only [exists_change_iff]
  constructor
  · rintro ⟨before, setting, after, hall, hbefore, hsetting⟩
    rw [Source.change] at hsetting
    cases htext : texts setting with
    | none =>
      rw [htext] at hsetting
      cases hsetting
    | some text =>
      rw [htext] at hsetting
      exact ⟨before, setting, after, text, hall, hbefore, htext, hsetting⟩
  · rintro ⟨before, setting, after, text, hall, hbefore, htext, hsetting⟩
    refine ⟨before, setting, after, hall, hbefore, ?_⟩
    rw [Source.change, htext]
    exact hsetting

end Config

end Ramp
