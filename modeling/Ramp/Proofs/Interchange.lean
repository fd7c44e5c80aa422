import Ramp.Proofs.Layering
import Ramp.Proofs.Numerals

/-!
# `Proofs.Interchange` — the command line and the environment say the same things

What an option says can be said by a variable instead. Two passes, one for the environment and one
for the command line above it, come to one pass for an environment in which the variables of the
given options are replaced. The two sources differ in what they allow around a numeral, so the way
back needs numerals without blanks around them; and bad texts are met in another order, so the two
ways agree on the settings but not, in general, on the error.

## Contents
- `Overrides.overlay`, and `Source.Reads.overlay`: values above values, as texts are above texts.
- `Source.reads_commandLine_iff`: what the two sources read alike.
- `Environment.replacedBy`: an environment with the variables of options replaced.
- `Config.resolveChecked`: the file layer and the environment, checked.
- `load_interchange`: loading with options, and with the variables in their place.
-/

namespace Ramp

/-! ## Values above values -/

/-- The values of `above`, and those of `below` where `above` gives none. -/
def Overrides.overlay (above below : Overrides) : Overrides where
  length := above.length.or below.length
  start := above.start.or below.start
  elementType := above.elementType.or below.elementType
  format := above.format.or below.format
  separator := above.separator.or below.separator
  level := above.level.or below.level
  logFormat := above.logFormat.or below.logFormat
  metrics := above.metrics.or below.metrics

/-- Values above values come above the settings at once as they do one after the other. -/
theorem Overrides.onto_overlay (above below : Overrides) (config : Config) :
    (above.overlay below).onto config = above.onto (below.onto config) := by
  simp only [overlay, onto, Option.getD_or]

namespace Source

variable {source : Source} {texts above below : Lookup} {values upper lower : Overrides}

/-- If texts have values, so has the first of them. -/
theorem map_or_eq {α β : Type} {parse : String → β} {done : α → β} {above below : Option String}
    {upper lower : Option α} (habove : above.map parse = upper.map done)
    (hbelow : below.map parse = lower.map done) :
    (above.or below).map parse = (upper.or lower).map done := by
  rw [Option.map_or, Option.map_or, habove, hbelow]

/-- **Texts above texts have the values above the values.** -/
theorem Reads.overlay (habove : source.Reads above upper) (hbelow : source.Reads below lower) :
    source.Reads (above.overlay below) (upper.overlay lower) where
  length := map_or_eq habove.length hbelow.length
  start := map_or_eq habove.start hbelow.start
  elementType := map_or_eq habove.elementType hbelow.elementType
  format := map_or_eq habove.format hbelow.format
  separator := by
    simp only [Lookup.overlay, Overrides.overlay, habove.separator, hbelow.separator]
  level := by
    simp only [Lookup.overlay, Overrides.overlay, habove.level, hbelow.level]
  logFormat := map_or_eq habove.logFormat hbelow.logFormat
  metrics := map_or_eq habove.metrics hbelow.metrics

/-- If texts above other texts are right, they are right alone. -/
theorem exists_reads_of_overlay (h : source.Reads (above.overlay below) values) :
    ∃ upper, source.Reads above upper := by
  refine exists_reads fun setting => ?_
  cases htext : above setting with
  | none => exact ⟨id, by rw [change, htext]⟩
  | some text =>
    have hchange := change_of_reads h setting
    have hsame : above.overlay below setting = some text := by
      rw [Lookup.overlay, htext, Option.some_or]
    rw [change, hsame] at hchange
    exact ⟨_, by rw [change, htext]; exact hchange⟩

/-! ## What both sources read -/

/-- Whether there are no blanks around the text of a setting, if one is given. -/
def Trimmed (texts : Lookup) (setting : Setting) : Prop :=
  ∀ text, texts setting = some text → Text.trim text = text

/-- Without blanks around it a numeral has the same characters for both sources. -/
theorem map_numeralChars {setting : Setting} (h : Trimmed texts setting) {β : Type}
    (parse : List Char → β) :
    (texts setting).map (fun text => parse (commandLine.numeralChars text)) =
      (texts setting).map fun text => parse (environment.numeralChars text) := by
  cases htext : texts setting with
  | none => rfl
  | some text =>
    have hchars : Text.trimChars text.toList = text.toList := by
      rw [← Text.toList_trim, h text htext]
    simp only [Option.map_some, numeralChars, hchars]

/-- **Both sources read the same**, if there are no blanks around the numerals. -/
theorem reads_commandLine_iff (hlength : Trimmed texts .length) (hstart : Trimmed texts .start) :
    commandLine.Reads texts values ↔ environment.Reads texts values := by
  constructor
  · intro h
    exact { h with
      length := (map_numeralChars hlength readCount).symm.trans h.length
      start := (map_numeralChars hstart readStart).symm.trans h.start }
  · intro h
    exact { h with
      length := (map_numeralChars hlength readCount).trans h.length
      start := (map_numeralChars hstart readStart).trans h.start }

theorem trimChars_of_readCount {cs : List Char} {n : UInt64} (h : readCount cs = .ok n) :
    Text.trimChars cs = cs := by
  obtain ⟨m, hread, -⟩ := Numeral.exists_of_map_eq_ok h
  exact Numeral.trimChars_of_readNat hread

theorem trimChars_of_readStart {cs : List Char} {n : Int64} (h : readStart cs = .ok n) :
    Text.trimChars cs = cs := by
  obtain ⟨m, hread, -⟩ := Numeral.exists_of_map_eq_ok h
  exact Numeral.trimChars_of_readInt hread

/-- A text is trimmed if what a reader of trimmed texts makes of it is a value. -/
theorem trimmed_of_map {α : Type} {parse : List Char → Except Numeral.Refusal α}
    {setting : Setting} {value : Option α}
    (hparse : ∀ cs a, parse cs = .ok a → Text.trimChars cs = cs)
    (h : (texts setting).map (fun text => parse (commandLine.numeralChars text)) =
      value.map .ok) : Trimmed texts setting := by
  intro text htext
  rw [htext] at h
  cases value with
  | none => cases h
  | some a =>
    have hchars : Text.trimChars text.toList = text.toList := hparse _ a (Option.some.inj h)
    rw [Text.trim, hchars, String.ofList_toList]

/-- **What the command line reads has no blanks around its numerals.** -/
theorem trimmed_of_reads (h : commandLine.Reads texts values) :
    Trimmed texts .length ∧ Trimmed texts .start :=
  ⟨trimmed_of_map (fun _ _ => trimChars_of_readCount) h.length,
    trimmed_of_map (fun _ _ => trimChars_of_readStart) h.start⟩

end Source

/-! ## Options in place of variables -/

/-- An environment in which the variables of the given options are replaced. -/
def Environment.replacedBy (arguments : CommandLine.Arguments) (environment : Environment) :
    Environment := fun name =>
  match Setting.all.find? fun setting => setting.variableName == name with
  | some setting => (arguments.lookup setting).or (environment name)
  | none => environment name

theorem Setting.find?_variableName (setting : Setting) :
    Setting.all.find? (fun other => other.variableName == setting.variableName) = some setting := by
  cases setting <;> decide

/-- The texts of the options are above those of the variables. -/
theorem Environment.lookup_replacedBy (arguments : CommandLine.Arguments)
    (environment : Environment) :
    (environment.replacedBy arguments).lookup = arguments.lookup.overlay environment.lookup := by
  funext setting
  simp only [lookup, replacedBy, Setting.find?_variableName, Lookup.overlay]

namespace Config

variable {disk : Disk} {path : Option String} {default : String} {environment given : Lookup}
  {config : Config}

/-- The file layer with the environment above it, checked. -/
def resolveChecked (disk : Disk) (path : Option String) (default : String) (environment : Lookup) :
    Except Error Config := do
  let config ← resolve disk path default environment
  config.validate
  return config

theorem resolveChecked_eq_ok_iff :
    resolveChecked disk path default environment = .ok config ↔
      resolve disk path default environment = .ok config ∧ config.Sound := by
  rw [resolveChecked, Except.bind_eq_ok_iff]
  constructor
  · rintro ⟨resolved, hresolve, hcheck⟩
    obtain ⟨rfl, hsound⟩ := check_eq_ok_iff.mp hcheck
    exact ⟨hresolve, hsound⟩
  · rintro ⟨hresolve, hsound⟩
    exact ⟨config, hresolve, check_eq_ok_iff.mpr ⟨rfl, hsound⟩⟩

/-- Where nothing is given, nothing is changed. -/
theorem overridden_of_none (source : Source) (h : ∀ setting, given setting = none)
    (config : Config) : config.overridden source given = .ok config :=
  overridden_eq_ok_iff_overrideAll.mpr
    (overrideAll_of_none source (fun setting _ => h setting) config)

/-- Whatever is loaded with texts on the command line is loaded with them above those of the
    environment. -/
theorem resolveChecked_of_load (h : load disk path default environment given = .ok config) :
    resolveChecked disk path default (given.overlay environment) = .ok config := by
  obtain ⟨file, lower, upper, hfile, hlower, hupper, rfl, hsound⟩ := load_eq_ok_iff.mp h
  -- the command line read its numerals, so there is nothing around them that only it refuses
  obtain ⟨hlength, hstart⟩ := Source.trimmed_of_reads hupper
  have hboth := ((Source.reads_commandLine_iff hlength hstart).mp hupper).overlay hlower
  rw [← Overrides.onto_overlay] at hsound ⊢
  exact resolveChecked_eq_ok_iff.mpr
    ⟨resolve_eq_ok_iff.mpr ⟨file, _, hfile, hboth, rfl⟩, hsound⟩

/-- Whatever is loaded with texts above those of the environment is loaded with them on the command
    line, if the environment is right without them and there are no blanks around the numerals. -/
theorem load_of_resolveChecked {resolved : Config}
    (hresolve : resolve disk path default environment = .ok resolved)
    (hlength : Source.Trimmed given .length) (hstart : Source.Trimmed given .start)
    (h : resolveChecked disk path default (given.overlay environment) = .ok config) :
    load disk path default environment given = .ok config := by
  obtain ⟨file, lower, hfile, hlower, -⟩ := resolve_eq_ok_iff.mp hresolve
  obtain ⟨hboth, hsound⟩ := resolveChecked_eq_ok_iff.mp h
  obtain ⟨file', values, hfile', hvalues, rfl⟩ := resolve_eq_ok_iff.mp hboth
  cases hfile.unique hfile'
  -- the given texts are right alone, and with those below they leave the same settings
  obtain ⟨upper, hupper⟩ := Source.exists_reads_of_overlay hvalues
  have hsame : values.onto file = upper.onto (lower.onto file) := by
    have hpass := overridden_of_reads (hupper.overlay hlower) file
    rw [overridden_of_reads hvalues file, Overrides.onto_overlay] at hpass
    exact Except.ok.inj hpass
  exact load_eq_ok_iff.mpr ⟨file, lower, upper, hfile, hlower,
    (Source.reads_commandLine_iff hlength hstart).mpr hupper, hsame, hsound⟩

/-- Without texts on the command line loading is the check of what is below. -/
theorem load_of_none (h : ∀ setting, given setting = none) :
    load disk path default environment given =
      resolveChecked disk path default environment := by
  simp only [load, resolveChecked, overridden_of_none .commandLine h]
  rfl

/-! ## Main result -/

/-- **Options and variables say the same.** What is loaded with options is loaded without them from
    an environment in which they replace the variables. The way back holds where the environment was
    right before and there are no blanks around the length and the first value. And where no option
    is given, the result is the same, be it settings or an error. -/
theorem load_interchange (disk : Disk) (default : String) (environment : Environment)
    (arguments : CommandLine.Arguments) :
    (∀ config,
      load disk (arguments.value .config) default environment.lookup arguments.lookup = .ok config →
        resolveChecked disk (arguments.value .config) default
          (environment.replacedBy arguments).lookup = .ok config) ∧
    (∀ resolved config,
      resolve disk (arguments.value .config) default environment.lookup = .ok resolved →
      (∀ text, arguments.value .length = some text → Text.trim text = text) →
      (∀ text, arguments.value .start = some text → Text.trim text = text) →
      resolveChecked disk (arguments.value .config) default
        (environment.replacedBy arguments).lookup = .ok config →
      load disk (arguments.value .config) default environment.lookup arguments.lookup =
        .ok config) ∧
    ((∀ setting, arguments.lookup setting = none) →
      load disk (arguments.value .config) default environment.lookup arguments.lookup =
        resolveChecked disk (arguments.value .config) default environment.lookup) := by
  rw [Environment.lookup_replacedBy]
  refine ⟨fun config => resolveChecked_of_load, ?_, load_of_none⟩
  intro resolved config hresolve hlength hstart h
  exact load_of_resolveChecked hresolve hlength hstart h

/-- The length and the metrics of the command line can be given by variables instead, and back; and
    without them the command line makes no difference. -/
theorem load_interchange_oneFile :
    (∃ config,
      load oneFile none defaultPath someVariables.lookup someArguments.lookup = .ok config ∧
        resolveChecked oneFile none defaultPath (someVariables.replacedBy someArguments).lookup =
          .ok config ∧ config.sequence.length = 3 ∧ config.metrics.enabled = true) ∧
      load oneFile none defaultPath someVariables.lookup CommandLine.Arguments.empty.lookup =
        resolveChecked oneFile none defaultPath someVariables.lookup := by
  obtain ⟨hthere, hback, -⟩ := load_interchange oneFile defaultPath someVariables someArguments
  obtain ⟨-, -, hnone⟩ := load_interchange oneFile defaultPath someVariables .empty
  have hload : (load oneFile none defaultPath someVariables.lookup someArguments.lookup).toOption
      = some { sequence := { elementType := .u8, start := 2, length := 3, maxLength := 500 }
               metrics := { enabled := true } } := by
    decide +kernel
  have hchecked := hthere _ (Except.eq_ok_of_toOption hload)
  have hresolve : (resolve oneFile none defaultPath someVariables.lookup).toOption
      = some { sequence := { elementType := .u8, start := 2, length := 6, maxLength := 500 }
               metrics := { enabled := false } } := by
    decide +kernel
  have hlength : ∀ text, someArguments.value .length = some text → Text.trim text = text := by
    rintro text ⟨⟩
    decide
  have hstart : ∀ text, someArguments.value .start = some text → Text.trim text = text := by
    rintro text ⟨⟩
  exact ⟨⟨_, hback _ _ (Except.eq_ok_of_toOption hresolve) hlength hstart hchecked, hchecked, rfl,
    rfl⟩, hnone fun setting => by cases setting <;> rfl⟩

end Config

end Ramp
