import Ramp.Proofs.Interruption
import Ramp.Proofs.Outcome

/-!
# `Proofs.ErrorKinds` — the kind of an error, and where it comes from

The kind of an error goes by the place where it arises, and not by the text or the file that is to
blame. Where settings are loaded there are five such places, and loading fails exactly if one of
them does. What getting ready and the run of a sequence can report is of kinds of their own. So
whatever the words, the environment and the files are, the user can mend what a program reports.

## Contents
- `Source.errorKind`, with `kind_of_objection`: the kind for a bad text.
- `Config.LoadStage` and `Config.FailsAt`: the places where loading fails; `exists_failsAt`,
  `load_of_failsAt`.
- `Session.prepare_eq_error_iff`, `Session.kind_of_run`, `Session.run_invalidInput_iff`: getting
  ready, and runs.
- `Program.error_runIn_iff`, `Program.kind_of_runIn`: whole runs; `Program.kind_of_error`: all of
  it.
-/

namespace Ramp

/-- The user can mend all errors but those of three kinds. -/
theorem Error.isClient_iff_kind {e : Error} :
    e.isClient = true ↔ e.kind ∉ ["Io", "Json", "Metrics"] := by
  cases e <;> simp [isClient, kind]

theorem Error.isClient_of_kind {e : Error}
    (h : e.kind ∈ ["Config", "Toml", "InvalidInput", "Overflow"]) : e.isClient = true := by
  rw [isClient_iff_kind]
  intro hkind
  cases e <;> simp [kind] at h hkind

/-! ## Bad texts -/

/-- The kind of the error for a bad text. A variable is a part of the configuration whatever it is
    for; of the options those for the sequence are input. -/
def Source.errorKind : Source → Setting → String
  | .commandLine, .length | .commandLine, .start | .commandLine, .elementType => "InvalidInput"
  | _, _ => "Config"

/-- **The kind of the error for a bad text** does not depend on the text. -/
theorem Source.kind_of_objection {source : Source} {setting : Setting} {text : String} {e : Error}
    (h : source.Objection setting text e) : e.kind = source.errorKind setting := by
  cases h with
  | length | start | outputFormat | logFormat | metrics => cases source <;> rfl
  | elementTypeVariable | elementTypeOption => rfl

section FirstError

variable {source : Source} {texts : Lookup} {setting : Setting} {before after : List Setting}
  {text : String} {e : Error}

/-- A first bad text is reported with what there is to say of it. -/
theorem Source.FirstBad.firstError (h : source.FirstBad texts before setting after text)
    (hobjection : source.Objection setting text e) : source.FirstError texts e := by
  have hpass := (Config.override_of_firstBad h hobjection {}).1
  exact Config.overridden_eq_error_iff.mp
    (Config.overridden_eq_error_iff_overrideAll.mpr (congrArg Prod.snd hpass))

/-- An error is what there is to say of a first bad text. -/
theorem Source.FirstError.exists_objection (h : source.FirstError texts e) :
    ∃ before setting after text, source.FirstBad texts before setting after text ∧
      source.Objection setting text e := by
  have hpass : (Config.override source texts {}).2 = .error e :=
    Config.overridden_eq_error_iff_overrideAll.mp (Config.overridden_eq_error_iff.mpr h)
  obtain ⟨before, setting, after, text, hfirst⟩ := Config.exists_firstBad hpass
  obtain ⟨other, hobjection⟩ := Source.exists_objection hfirst.bad
  -- the pass ends with the error of the first bad text, so this is the error
  have hother := congrArg Prod.snd (Config.override_of_firstBad hfirst hobjection {}).1
  cases hother.symm.trans hpass
  exact ⟨before, setting, after, text, hfirst, hobjection⟩

end FirstError

namespace Config

/-! ## Where loading fails -/

/-- The places where loading fails. -/
inductive LoadStage where
  /-- The text of the file. -/
  | file
  /-- The document that the text is to be. -/
  | document
  /-- The variable for a setting. -/
  | fromEnvironment (setting : Setting)
  /-- The option for a setting. -/
  | fromCommandLine (setting : Setting)
  /-- The check of all settings. -/
  | check

/-- The kind of the errors from a place. -/
def LoadStage.kind : LoadStage → String
  | .file | .check => "Config"
  | .document => "Toml"
  | .fromEnvironment setting => Source.environment.errorKind setting
  | .fromCommandLine setting => Source.commandLine.errorKind setting

/-- The file that is read: the named one, or else the default one if it is there. -/
def settingsFile (disk : Disk) (default : String) (path : Option String) : Option String :=
  path.or (if disk.has default then some default else none)

/-- **Where loading fails**: the text of the file cannot be had; it is no TOML or does not fit; a
    variable is bad; an option is the first bad one; or all that is right by itself cannot be used
    together. At each place all is right that comes before it. -/
inductive FailsAt (disk : Disk) (default : String) (path : Option String)
    (environment commandLine : Lookup) : LoadStage → Prop
  | file {name : String} {why : ReadFailure} (hname : settingsFile disk default path = some name)
      (htext : disk.read name = .error why) :
      FailsAt disk default path environment commandLine .file
  | document {name text : String} (hname : settingsFile disk default path = some name)
      (htext : disk.read name = .ok text) (hmisfit : ∀ config, ofToml text ≠ .ok config) :
      FailsAt disk default path environment commandLine .document
  | fromEnvironment {file : Config} {setting : Setting} {text : String}
      (hfile : FileLayer disk default path (.ok file)) (hgiven : environment setting = some text)
      (hbad : ¬ Source.environment.Accepts setting text) :
      FailsAt disk default path environment commandLine (.fromEnvironment setting)
  | fromCommandLine {file : Config} {below : Overrides} {before after : List Setting}
      {setting : Setting} {text : String} (hfile : FileLayer disk default path (.ok file))
      (hbelow : Source.environment.Reads environment below)
      (hfirst : Source.commandLine.FirstBad commandLine before setting after text) :
      FailsAt disk default path environment commandLine (.fromCommandLine setting)
  | check {file : Config} {below above : Overrides}
      (hfile : FileLayer disk default path (.ok file))
      (hbelow : Source.environment.Reads environment below)
      (habove : Source.commandLine.Reads commandLine above)
      (hunsound : ¬ (above.onto (below.onto file)).Sound) :
      FailsAt disk default path environment commandLine .check

section Load

variable {disk : Disk} {default : String} {path : Option String}
  {environment commandLine : Lookup} {stage : LoadStage} {config : Config} {e : Error}

/-- The file layer fails exactly where its file does. -/
theorem fileLayer_error_iff :
    FileLayer disk default path (.error e) ↔
      ∃ name, settingsFile disk default path = some name ∧ FileReading disk name (.error e) := by
  unfold settingsFile
  constructor
  · intro h
    cases h with
    | named name hfile => exact ⟨name, rfl, hfile⟩
    | present hhas hfile => exact ⟨default, by rw [if_pos hhas]; rfl, hfile⟩
  · rintro ⟨name, hname, hfile⟩
    cases path with
    | some path =>
      cases hname
      exact .named _ hfile
    | none =>
      by_cases hhas : disk.has default = true
      · rw [if_pos hhas] at hname
        cases hname
        exact .present hhas hfile
      · rw [if_neg hhas] at hname
        cases hname

/-- A text that gives no settings is no TOML, or does not fit. -/
theorem exists_fault_of_misfit {name text : String} (htext : disk.read name = .ok text)
    (hmisfit : ∀ config, ofToml text ≠ .ok config) :
    ∃ fault, FileReading disk name (.error (.toml fault)) := by
  unfold ofToml at hmisfit
  cases htoml : Toml.read text with
  | none => exact ⟨_, .malformed text htext htoml⟩
  | some document =>
    rw [htoml] at hmisfit
    cases hdocument : ofDocument .toml document with
    | ok config => exact absurd hdocument (hmisfit config)
    | error fault => exact ⟨fault, .misfit text document fault htext htoml hdocument⟩

/-- A file fails for want of its text, or for what the text is. -/
theorem failsAt_of_fileLayer (h : FileLayer disk default path (.error e)) :
    ∃ stage, FailsAt disk default path environment commandLine stage ∧ e.kind = stage.kind := by
  obtain ⟨name, hname, hfile⟩ := fileLayer_error_iff.mp h
  cases hfile with
  | unreadable why htext => exact ⟨.file, .file hname htext, rfl⟩
  | malformed text htext htoml =>
    refine ⟨.document, .document hname htext ?_, rfl⟩
    intro config hconfig
    rw [ofToml, htoml] at hconfig
    cases hconfig
  | misfit text document fault htext htoml hdocument =>
    refine ⟨.document, .document hname htext ?_, rfl⟩
    intro config hconfig
    rw [ofToml, htoml] at hconfig
    cases hdocument.symm.trans hconfig

theorem LoadStage.kind_mem (stage : LoadStage) :
    stage.kind ∈ ["Config", "Toml", "InvalidInput"] := by
  cases stage with
  | file | document | check => decide
  | fromEnvironment setting | fromCommandLine setting => cases setting <;> decide

/-- **Every error comes from a place where loading fails**, and is of its kind. -/
theorem exists_failsAt (h : load disk path default environment commandLine = .error e) :
    ∃ stage, FailsAt disk default path environment commandLine stage ∧ e.kind = stage.kind := by
  rcases load_eq_error_iff.mp h with hfile | ⟨file, hfile, hfirst⟩ |
    ⟨file, below, hfile, hbelow, hfirst⟩ |
    ⟨file, below, above, problem, hfile, hbelow, habove, hflaw, rfl⟩
  · exact failsAt_of_fileLayer hfile
  · obtain ⟨_, setting, _, text, hbad, hobjection⟩ := hfirst.exists_objection
    exact ⟨.fromEnvironment setting, .fromEnvironment hfile hbad.given hbad.bad,
      Source.kind_of_objection hobjection⟩
  · obtain ⟨_, setting, _, text, hbad, hobjection⟩ := hfirst.exists_objection
    exact ⟨.fromCommandLine setting, .fromCommandLine hfile hbelow hbad,
      Source.kind_of_objection hobjection⟩
  · refine ⟨.check, .check hfile hbelow habove fun hsound => ?_, rfl⟩
    have hvalid := validate_of_sound hsound
    rw [validate_of_flaw hflaw] at hvalid
    cases hvalid

/-- **A place where loading fails settles the kind of the error.** -/
theorem load_of_failsAt (h : FailsAt disk default path environment commandLine stage) :
    ∃ e, load disk path default environment commandLine = .error e ∧ e.kind = stage.kind := by
  cases h with
  | file hname htext =>
    have hlayer := fileLayer_error_iff.mpr ⟨_, hname, .unreadable _ htext⟩
    exact ⟨_, load_eq_error_iff.mpr (.inl hlayer), rfl⟩
  | document hname htext hmisfit =>
    obtain ⟨fault, hfile⟩ := exists_fault_of_misfit htext hmisfit
    have hlayer := fileLayer_error_iff.mpr ⟨_, hname, hfile⟩
    exact ⟨_, load_eq_error_iff.mpr (.inl hlayer), rfl⟩
  | @fromEnvironment file setting text hfile hgiven hbad =>
    -- the first bad variable may be another one, but it is of the same kind
    obtain ⟨e, he⟩ : ∃ e, (override .environment environment file).2 = .error e :=
      exists_error_iff.mpr ⟨setting, text, hgiven, hbad⟩
    have hfirst := overridden_eq_error_iff.mp (overridden_eq_error_iff_overrideAll.mpr he)
    obtain ⟨_, _, _, _, _, hobjection⟩ := hfirst.exists_objection
    refine ⟨e, load_eq_error_iff.mpr (.inr (.inl ⟨file, hfile, hfirst⟩)), ?_⟩
    exact Source.kind_of_objection hobjection
  | fromCommandLine hfile hbelow hfirst =>
    obtain ⟨e, hobjection⟩ := Source.exists_objection hfirst.bad
    have herror := hfirst.firstError hobjection
    refine ⟨e, load_eq_error_iff.mpr (.inr (.inr (.inl ⟨_, _, hfile, hbelow, herror⟩))), ?_⟩
    exact Source.kind_of_objection hobjection
  | check hfile hbelow habove hunsound =>
    rcases sound_or_flaw _ with hsound | ⟨problem, hflaw⟩
    · exact absurd hsound hunsound
    · refine ⟨.config problem, load_eq_error_iff.mpr (.inr (.inr (.inr ?_))), rfl⟩
      exact ⟨_, _, _, problem, hfile, hbelow, habove, hflaw, rfl⟩

end Load

end Config

/-! ## Getting ready, and runs -/

/-- That the metrics cannot be used is no error to report. -/
theorem Ledger.ensure_ne_error (ledger : Ledger) (e : Error) :
    ledger.ensure.2 ≠ .error (.error e) := by
  intro h
  unfold ensure at h
  split at h
  · cases h
  · cases h
  · split at h <;> cases h

namespace Session

variable {session : Session} {environment : Environment} {config : Config} {e : Error}

/-- **Getting ready** reports that events are being received already, exactly if they are and could
    be received as is asked for, and nothing else. -/
theorem prepare_eq_error_iff :
    (session.prepare environment config).2 = .error (.error e) ↔
      Readable environment config ∧ session.receiver.isSome = true ∧
        e = .config .loggingInstalled := by
  rcases prepare_cases environment config session with ⟨message, hunreadable, h⟩ |
    ⟨asked, receiver, hasked, hreceiver, h⟩ | ⟨asked, hasked, hnone⟩
  · rw [h]
    constructor
    · intro habort
      cases habort
    · rintro ⟨⟨asked, hasked⟩, -⟩
      rw [hunreadable] at hasked
      cases hasked
  · rw [h, hreceiver]
    constructor
    · intro herror
      cases herror
      exact ⟨⟨asked, hasked⟩, rfl, rfl⟩
    · rintro ⟨-, -, rfl⟩
      rfl
  · rw [snd_prepare_of_ok hasked hnone, hnone]
    constructor
    · intro h
      exact absurd h (Ledger.ensure_ne_error _ e)
    · rintro ⟨-, hreceiver, -⟩
      cases hreceiver

/-- **A run reports** why there is no sequence, if the metrics can be used. -/
theorem exists_refusal_of_run (h : (session.run config).2 = .error (.error e)) :
    ∃ refusal, Sequence.ofSettings config.sequence = .error refusal ∧
      refusal.toFailure = .error e := by
  rcases run_cases config session with ⟨why, hensure, hresult, -⟩ | ⟨_, -, -, -, hresult, -⟩ |
    ⟨_, _, -, -, -, -, hresult, -⟩ | ⟨-, hgenerate, hresult, -⟩ |
    ⟨refusal, other, -, hgenerate, hfailure, hresult, -⟩
  · cases hresult.symm.trans h
    exact absurd hensure (Ledger.ensure_ne_error _ e)
  · cases hresult.symm.trans h
  · cases hresult.symm.trans h
  · cases hresult.symm.trans h
  · cases hresult.symm.trans h
    exact ⟨refusal, hgenerate, hfailure⟩

/-- What a run reports is of one of two kinds. -/
theorem kind_of_run (h : (session.run config).2 = .error (.error e)) :
    e.kind = "InvalidInput" ∨ e.kind = "Overflow" := by
  obtain ⟨refusal, -, hfailure⟩ := exists_refusal_of_run h
  cases refusal with
  | startOutside =>
    cases hfailure
    exact Or.inl rfl
  | tooLarge => cases hfailure
  | overflow =>
    cases hfailure
    exact Or.inr rfl

/-- **The input of a run is invalid** exactly if the first value is none of the type, whatever the
    length. -/
theorem run_invalidInput_iff (husable : session.ledger.Usable) (config : Config) :
    (∃ e, (session.run config).2 = .error (.error e) ∧ e.kind = "InvalidInput") ↔
      ¬ (config.sequence.elementType.least ≤ config.sequence.start.toInt ∧
        config.sequence.start.toInt ≤ config.sequence.elementType.greatest) := by
  constructor
  · rintro ⟨e, hresult, hkind⟩ hinside
    obtain ⟨refusal, hgenerate, hfailure⟩ := exists_refusal_of_run hresult
    have hgeneration := Sequence.generation_generate config.sequence.elementType
      config.sequence.start.toInt config.sequence.length.toNat
    rw [show Sequence.generate _ _ _ = .error refusal from hgenerate] at hgeneration
    replace hgeneration : Sequence.Generation _ _ _ (.error refusal.toFailure) := hgeneration
    rw [hfailure] at hgeneration
    cases hgeneration with
    | startOutside houtside => exact houtside hinside
    | overflow => exact absurd hkind (by simp [Error.kind])
  · intro houtside
    have hgenerate : Sequence.ofSettings config.sequence = .error _ :=
      Sequence.generate_of_outside houtside config.sequence.length.toNat
    rw [snd_run_of_usable husable, answer, hgenerate]
    exact ⟨_, rfl, rfl⟩

end Session

namespace Program

open Session

variable {session : Session} {environment : Environment} {config : Config} {e : Error}

/-- What is done once the settings are known reports what getting ready does, or what the run
    does. -/
theorem kind_of_work {onlyFour : Bool}
    (h : (work environment config onlyFour session).2 = .error (.error e)) :
    e.kind ∈ ["Config", "InvalidInput", "Overflow"] := by
  have hrun : ∀ ready why, (Session.run config ready).2 = .error why → why = .error e →
      e.kind ∈ ["Config", "InvalidInput", "Overflow"] := by
    rintro ready why hresult rfl
    rcases kind_of_run hresult with hkind | hkind <;> simp [hkind]
  unfold work at h
  split at h
  · next why hprepare =>
    cases h
    obtain ⟨-, -, rfl⟩ := prepare_eq_error_iff.mp (congrArg Prod.snd hprepare)
    decide
  · split at h
    · cases h
    · dsimp only at h
      split at h
      · next why hresult => exact hrun _ why (congrArg Prod.snd hresult) (Except.error.inj h)
      · cases h

/-- **What a program reports**: why there are no settings, or what is reported of the work that is
    done once they are known. -/
theorem error_runIn_iff {words : List String} {disk : Disk} :
    (runIn session words environment disk).2.error = some e ↔
      ∃ arguments, CommandLine.parse words = .ok arguments ∧
        (Config.load disk (arguments.value .config) Config.defaultPath environment.lookup
            arguments.lookup = .error e ∨
          ∃ config, Config.load disk (arguments.value .config) Config.defaultPath
              environment.lookup arguments.lookup = .ok config ∧
            (work environment config (arguments.isSet .four) session).2 = .error (.error e)) := by
  unfold runIn
  cases hparse : CommandLine.parse words with
  | error stop => simp
  | ok arguments =>
    cases hload : Config.load disk (arguments.value .config) Config.defaultPath
        environment.lookup arguments.lookup with
    | error other => simp [hload]
    | ok config =>
      cases hwork : (work environment config (arguments.isSet .four) session).2 with
      | ok printed => simp [hload, hwork]
      | error why => cases why <;> simp [hload, hwork]

/-- What a program reports is of one of four kinds. -/
theorem kind_of_runIn {words : List String} {disk : Disk}
    (h : (runIn session words environment disk).2.error = some e) :
    e.kind ∈ ["Config", "Toml", "InvalidInput", "Overflow"] := by
  obtain ⟨arguments, -, hload | ⟨config, -, hwork⟩⟩ := error_runIn_iff.mp h
  · obtain ⟨stage, -, hkind⟩ := Config.exists_failsAt hload
    have hmem := stage.kind_mem
    rw [← hkind] at hmem
    exact List.mem_append_left ["Overflow"] hmem
  · have hfour : ["Config", "InvalidInput", "Overflow"] ⊆
        ["Config", "Toml", "InvalidInput", "Overflow"] := by
      decide
    exact hfour (kind_of_work hwork)

/-! ## Main result -/

/-- **The kind of every error goes by the place where it arises**, and the user can mend it.

    Loading fails with the kind of the place where it fails, and only where there is such a place.
    An element type that is bad is bad input by itself, but in the environment it is a part of the
    configuration. Getting ready reports nothing but that events are being received already, which
    is of the kind of a bad configuration. A run reports that the input is invalid, exactly if the
    first value is none of the type, or an overflow. So a program never reports an error that the
    user cannot mend. -/
theorem kind_of_error (session : Session) (environment : Environment) (disk : Disk)
    (default : String) (path : Option String) (commandLine : Lookup) :
    (∀ e, Config.load disk path default environment.lookup commandLine = .error e →
      e.isClient = true ∧
        ∃ stage, Config.FailsAt disk default path environment.lookup commandLine stage ∧
          e.kind = stage.kind) ∧
    (∀ stage, Config.FailsAt disk default path environment.lookup commandLine stage →
      ∃ e, Config.load disk path default environment.lookup commandLine = .error e ∧
        e.kind = stage.kind) ∧
    (∀ text, Text.normalize text ∉ Named.names ElementType →
      ElementType.ofText text = .error (.invalidInput (.elementType text)) ∧
        Source.environment.read .elementType text =
          .error (.config (.elementTypeSetting "SF_ELEMENT_TYPE" text))) ∧
    (∀ config e, (session.prepare environment config).2 = .error (.error e) ↔
      Readable environment config ∧ session.receiver.isSome = true ∧
        e = .config .loggingInstalled) ∧
    (∀ config e, (session.run config).2 = .error (.error e) →
      e.kind = "InvalidInput" ∨ e.kind = "Overflow") ∧
    (session.ledger.Usable → ∀ config : Config,
      (∃ e, (session.run config).2 = .error (.error e) ∧ e.kind = "InvalidInput") ↔
        ¬ (config.sequence.elementType.least ≤ config.sequence.start.toInt ∧
          config.sequence.start.toInt ≤ config.sequence.elementType.greatest)) ∧
    ∀ words e, (runIn session words environment disk).2.error = some e →
      e.isClient = true ∧ e.kind ∉ ["Io", "Json", "Metrics"] := by
  refine ⟨?_, fun stage => Config.load_of_failsAt, ?_, fun config e => prepare_eq_error_iff,
    fun config e => kind_of_run, run_invalidInput_iff, ?_⟩
  · intro e hload
    obtain ⟨stage, hfails, hkind⟩ := Config.exists_failsAt hload
    have hmem := stage.kind_mem
    rw [← hkind] at hmem
    exact ⟨Error.isClient_of_kind (List.mem_append_left ["Overflow"] hmem), stage, hfails, hkind⟩
  · intro text hname
    refine ⟨?_, Source.read_of_objection (.elementTypeVariable hname)⟩
    rw [ElementType.ofText, Named.ofText?_eq_none_iff.mpr hname]
  · intro words e herror
    have hclient := Error.isClient_of_kind (kind_of_runIn herror)
    exact ⟨hclient, Error.isClient_iff_kind.mp hclient⟩

/-- An environment that names an element type that there is not. -/
def badType : Environment := fun name =>
  if name = "SF_ELEMENT_TYPE" then some "i33" else none

/-- A type that there is not is a bad configuration in the environment, and bad input on the command
    line, where the program says so. A first value outside the type is bad input even if nothing is
    to be written. -/
theorem kind_of_error_badType :
    (∃ e, Config.load .empty none Config.defaultPath badType.lookup (fun _ => none) = .error e ∧
      e.kind = "Config" ∧ e.isClient = true) ∧
    (∃ e, (Session.run { sequence := { elementType := .u8, start := -1, length := 0 } } {}).2 =
      .error (.error e) ∧ e.kind = "InvalidInput") ∧
    ∃ e, (runIn {} ["--type=i33"] (fun _ => none) .empty).2.error = some e ∧
      e.kind = "InvalidInput" ∧ e.isClient = true := by
  obtain ⟨hload, hfails, -, -, -, hrun, -⟩ :=
    kind_of_error {} badType .empty Config.defaultPath none fun _ => none
  obtain ⟨-, -, -, -, -, -, hmain⟩ :=
    kind_of_error {} (fun _ => none) .empty Config.defaultPath none fun _ => none
  have hbad : ¬ Source.environment.Accepts .elementType "i33" := by
    show Text.normalize "i33" ∉ Named.names ElementType
    decide +kernel
  refine ⟨?_, ?_, ?_⟩
  · obtain ⟨e, herror, hkind⟩ := hfails (.fromEnvironment .elementType)
      (.fromEnvironment (.absent rfl) rfl hbad)
    exact ⟨e, herror, hkind, (hload e herror).1⟩
  · exact (hrun Ledger.usable_empty _).mpr (by decide)
  · have herror : (runIn {} ["--type=i33"] (fun _ => none) .empty).2.error =
        some (.invalidInput (.elementType "i33")) := by
      decide +kernel
    exact ⟨_, herror, rfl, (hmain _ _ herror).1⟩

end Program

end Ramp
