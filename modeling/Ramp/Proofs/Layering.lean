import Ramp.CommandLine.Basic
import Ramp.Config.Layers
import Ramp.Proofs.Overriding
import Ramp.Proofs.SettingsDocument

/-!
# `Proofs.Layering` — which layer each setting comes from

Loading goes through the file, the environment and the command line and checks what comes out. Here
it is described without that order of work: by the settings of the file layer, the values of the two
sources of texts, and the first reason, if any, why these together cannot be used. A layer that is
wrong is an error even where the layers above it would have hidden it.

## Contents
- `Config.FileReading`, `Config.FileLayer`: the outcome of the file layer; `base_eq_iff`.
- `Config.Sound` and `Config.Flaw`: what the check at the end asks for.
- `load_eq_ok_iff`, `load_eq_error_iff`: the settings that are loaded, and the error that wins.
- `load_layered`: all of it, for an environment and arguments.
-/

namespace Ramp

namespace Config

/-! ## The file layer -/

/-- **The outcome of reading a file.** There is a text, it is TOML, and the document fits. -/
inductive FileReading (disk : Disk) (path : String) : Except Error Config → Prop
  | unreadable (why : ReadFailure) (htext : disk.read path = .error why) :
      FileReading disk path (.error (.config (.unreadable path why)))
  | malformed (text : String) (htext : disk.read path = .ok text) (htoml : Toml.read text = none) :
      FileReading disk path (.error (.toml .malformed))
  | misfit (text : String) (document : Document) (fault : Fault)
      (htext : disk.read path = .ok text) (htoml : Toml.read text = some document)
      (hdocument : ofDocument .toml document = .error fault) :
      FileReading disk path (.error (.toml fault))
  | read (text : String) (document : Document) (config : Config)
      (htext : disk.read path = .ok text) (htoml : Toml.read text = some document)
      (hdocument : ofDocument .toml document = .ok config) :
      FileReading disk path (.ok config)

/-- **The outcome of the file layer.** A named file is read, whatever there is at the default path.
    Without a name, the default file is read if it is there; else the defaults stand. -/
inductive FileLayer (disk : Disk) (default : String) :
    Option String → Except Error Config → Prop
  | named (path : String) {result : Except Error Config} (hfile : FileReading disk path result) :
      FileLayer disk default (some path) result
  | present {result : Except Error Config} (hhas : disk.has default = true)
      (hfile : FileReading disk default result) : FileLayer disk default none result
  | absent (hhas : disk.has default = false) : FileLayer disk default none (.ok {})

section FileLayer

variable {disk : Disk} {default : String} {path : Option String}
  {result other : Except Error Config}

theorem fileReading_ofFile (disk : Disk) (path : String) :
    FileReading disk path (ofFile disk path) := by
  rw [ofFile]
  cases htext : disk.read path with
  | error why => exact .unreadable why htext
  | ok text =>
    show FileReading disk path ((ofToml text).mapError .toml)
    rw [ofToml]
    cases htoml : Toml.read text with
    | none => exact .malformed text htext htoml
    | some document =>
      show FileReading disk path ((ofDocument .toml document).mapError .toml)
      cases hdocument : ofDocument .toml document with
      | error fault => exact .misfit text document fault htext htoml hdocument
      | ok config => exact .read text document config htext htoml hdocument

/-- A reading of a file is what the program makes of the file. -/
theorem FileReading.eq_ofFile {path : String} (h : FileReading disk path result) :
    ofFile disk path = result := by
  cases h with
  | unreadable why htext => simp only [ofFile, htext]
  | malformed text htext htoml =>
    simp only [ofFile, ofToml, htext, htoml]
    rfl
  | misfit text document fault htext htoml hdocument =>
    simp only [ofFile, ofToml, htext, htoml, hdocument]
    rfl
  | read text document config htext htoml hdocument =>
    simp only [ofFile, ofToml, htext, htoml, hdocument]
    rfl

/-- **The file layer has the one outcome that its rules give.** -/
theorem base_eq_iff : base disk path default = result ↔ FileLayer disk default path result := by
  constructor
  · rintro rfl
    cases path with
    | some path => exact .named path (fileReading_ofFile disk path)
    | none =>
      rw [base]
      split
      · next hhas => exact .present hhas (fileReading_ofFile disk default)
      · next hhas => exact .absent (Bool.eq_false_iff.mpr hhas)
  · intro h
    cases h with
    | named path hfile => exact hfile.eq_ofFile
    | present hhas hfile =>
      rw [base, if_pos hhas]
      exact hfile.eq_ofFile
    | absent hhas => rw [base, hhas, if_neg Bool.false_ne_true]

theorem FileLayer.unique (h : FileLayer disk default path result)
    (hother : FileLayer disk default path other) : result = other :=
  (base_eq_iff.mpr h).symm.trans (base_eq_iff.mpr hother)

/-- **Settings of the file layer** are the defaults where there is no file to read, and else come,
    each one on its own, from the document in the file or from the defaults. -/
theorem FileLayer.origin {file : Config} (h : FileLayer disk default path (.ok file)) :
    path = none ∧ disk.has default = false ∧ file = {} ∨
      ∃ text document, disk.read (path.getD default) = .ok text ∧
        Toml.read text = some document ∧ GivenBy .toml document file := by
  cases h with
  | named path hfile =>
    cases hfile with
    | read text document _ htext htoml hdocument =>
      exact .inr ⟨text, document, htext, htoml, givenBy_of_ofDocument hdocument⟩
  | present hhas hfile =>
    cases hfile with
    | read text document _ htext htoml hdocument =>
      exact .inr ⟨text, document, htext, htoml, givenBy_of_ofDocument hdocument⟩
  | absent hhas => exact .inl ⟨rfl, hhas, rfl⟩

end FileLayer

/-! ## The check at the end -/

/-- The names of the levels. -/
def levelNames : List String := ["trace", "debug", "info", "warn", "error"]

/-- **Settings that can be used.** -/
structure Sound (config : Config) : Prop where
  maxLength_pos : 1 ≤ config.sequence.maxLength.toNat
  length_le : config.sequence.length.toNat ≤ config.sequence.maxLength.toNat
  level_mem : config.logging.normalizedLevel ∈ levelNames

/-- **The first reason why settings cannot be used**: no length is allowed, or else this one is
    not, or else there is no such level. -/
inductive Flaw (config : Config) : Problem → Prop
  | noLength (hmax : config.sequence.maxLength.toNat = 0) : Flaw config .noLengthAllowed
  | length (hmax : 1 ≤ config.sequence.maxLength.toNat)
      (hlength : config.sequence.maxLength.toNat < config.sequence.length.toNat) :
      Flaw config
        (.lengthExceeded config.sequence.length.toNat config.sequence.maxLength.toNat)
  | level (hmax : 1 ≤ config.sequence.maxLength.toNat)
      (hlength : config.sequence.length.toNat ≤ config.sequence.maxLength.toNat)
      (hlevel : config.logging.normalizedLevel ∉ levelNames) :
      Flaw config (.logLevel config.logging.level)

section Check

variable {config : Config}

/-- A level is named exactly by the five names. -/
theorem isSome_level?_iff {settings : LoggingSettings} :
    settings.level?.isSome ↔ settings.normalizedLevel ∈ levelNames :=
  Named.isSome_ofName?_iff

theorem maxLength_ne_zero_iff :
    config.sequence.maxLength ≠ 0 ↔ 1 ≤ config.sequence.maxLength.toNat := by
  rw [Nat.one_le_iff_ne_zero, Ne, ← UInt64.toNat_inj]
  rfl

theorem isValid_iff_sound : config.IsValid ↔ config.Sound := by
  rw [IsValid, maxLength_ne_zero_iff, UInt64.le_iff_toNat_le, isSome_level?_iff]
  exact ⟨fun ⟨hpos, hle, hlevel⟩ => ⟨hpos, hle, hlevel⟩, fun h => ⟨h.1, h.2, h.3⟩⟩

theorem validate_of_sound (h : config.Sound) : config.validate = .ok () :=
  validate_eq_ok_iff.mpr (isValid_iff_sound.mpr h)

/-- The check reports the first reason. -/
theorem validate_of_flaw {problem : Problem} (h : config.Flaw problem) :
    config.validate = .error (.config problem) := by
  cases h with
  | noLength hmax =>
    have hzero : config.sequence.maxLength = 0 := UInt64.toNat_inj.mp hmax
    rw [validate, if_pos hzero]
  | length hmax hlength =>
    rw [validate, if_neg (maxLength_ne_zero_iff.mpr hmax),
      if_pos (UInt64.lt_iff_toNat_lt.mpr hlength)]
  | level hmax hlength hlevel =>
    have hle := UInt64.not_lt.mpr (UInt64.le_iff_toNat_le.mpr hlength)
    have hnone : config.logging.level?.isNone := by
      rw [← isSome_level?_iff] at hlevel
      simpa using hlevel
    rw [validate, if_neg (maxLength_ne_zero_iff.mpr hmax), if_neg hle, if_pos hnone]

/-- Settings can be used, or there is a first reason why they cannot. -/
theorem sound_or_flaw (config : Config) : config.Sound ∨ ∃ problem, config.Flaw problem := by
  rcases Nat.eq_zero_or_pos config.sequence.maxLength.toNat with hmax | hmax
  · exact .inr ⟨_, .noLength hmax⟩
  rcases Nat.lt_or_ge config.sequence.maxLength.toNat config.sequence.length.toNat with
    hlength | hlength
  · exact .inr ⟨_, .length hmax hlength⟩
  by_cases hlevel : config.logging.normalizedLevel ∈ levelNames
  · exact .inl ⟨hmax, hlength, hlevel⟩
  · exact .inr ⟨_, .level hmax hlength hlevel⟩

theorem validate_eq_ok_iff_sound : config.validate = .ok () ↔ config.Sound :=
  validate_eq_ok_iff.trans isValid_iff_sound

theorem validate_eq_error_iff {e : Error} :
    config.validate = .error e ↔ ∃ problem, config.Flaw problem ∧ e = .config problem := by
  constructor
  · intro h
    rcases sound_or_flaw config with hsound | ⟨problem, hflaw⟩
    · rw [validate_of_sound hsound] at h
      cases h
    · rw [validate_of_flaw hflaw] at h
      cases h
      exact ⟨problem, hflaw, rfl⟩
  · rintro ⟨problem, hflaw, rfl⟩
    exact validate_of_flaw hflaw

end Check

/-! ## All layers -/

section Load

variable {disk : Disk} {default : String} {path : Option String}
  {environment commandLine : Lookup} {config : Config} {e : Error}

/-- The file layer with the environment above it. -/
theorem resolve_eq_ok_iff :
    resolve disk path default environment = .ok config ↔
      ∃ file below, FileLayer disk default path (.ok file) ∧
        Source.environment.Reads environment below ∧ config = below.onto file := by
  rw [resolve, Except.bind_eq_ok_iff]
  constructor
  · rintro ⟨file, hfile, hover⟩
    obtain ⟨below, hbelow, rfl⟩ := overridden_eq_ok_iff.mp hover
    exact ⟨file, below, base_eq_iff.mp hfile, hbelow, rfl⟩
  · rintro ⟨file, below, hfile, hbelow, rfl⟩
    exact ⟨file, base_eq_iff.mpr hfile, overridden_of_reads hbelow file⟩

/-- The environment is only looked at if the file layer is right. -/
theorem resolve_eq_error_iff :
    resolve disk path default environment = .error e ↔
      FileLayer disk default path (.error e) ∨
      ∃ file, FileLayer disk default path (.ok file) ∧
        Source.environment.FirstError environment e := by
  rw [resolve, Except.bind_eq_error_iff]
  simp only [base_eq_iff, overridden_eq_error_iff]

/-- Settings are checked and left as they are. -/
theorem check_eq_ok_iff {result : Config} :
    (do config.validate; return config) = Except.ok (ε := Error) result ↔
      result = config ∧ config.Sound := by
  rw [Except.bind_eq_ok_iff]
  constructor
  · rintro ⟨⟨⟩, hvalid, hresult⟩
    exact ⟨(Except.ok.inj hresult).symm, validate_eq_ok_iff_sound.mp hvalid⟩
  · rintro ⟨rfl, hsound⟩
    exact ⟨(), validate_of_sound hsound, rfl⟩

theorem check_eq_error_iff :
    (do config.validate; return config) = Except.error (α := Config) e ↔
      ∃ problem, config.Flaw problem ∧ e = .config problem := by
  rw [Except.bind_eq_error_iff, validate_eq_error_iff]
  constructor
  · rintro (hflaw | ⟨_, _, hreturn⟩)
    · exact hflaw
    · cases hreturn
  · exact .inl

/-- **The settings that are loaded.** All layers are right, the values of the upper ones are above
    those of the lower ones, and what comes out can be used. -/
theorem load_eq_ok_iff :
    load disk path default environment commandLine = .ok config ↔
      ∃ file below above, FileLayer disk default path (.ok file) ∧
        Source.environment.Reads environment below ∧ Source.commandLine.Reads commandLine above ∧
        config = above.onto (below.onto file) ∧ config.Sound := by
  rw [load, Except.bind_eq_ok_iff]
  constructor
  · rintro ⟨resolved, hresolve, h⟩
    -- peel the layers off from below: the environment, the command line, the check
    obtain ⟨merged, hmerged, hcheck⟩ := Except.bind_eq_ok_iff.mp h
    obtain ⟨file, below, hfile, hbelow, rfl⟩ := resolve_eq_ok_iff.mp hresolve
    obtain ⟨above, habove, rfl⟩ := overridden_eq_ok_iff.mp hmerged
    obtain ⟨rfl, hsound⟩ := check_eq_ok_iff.mp hcheck
    exact ⟨file, below, above, hfile, hbelow, habove, rfl, hsound⟩
  · rintro ⟨file, below, above, hfile, hbelow, habove, rfl, hsound⟩
    refine ⟨below.onto file, resolve_eq_ok_iff.mpr ⟨file, below, hfile, hbelow, rfl⟩, ?_⟩
    refine Except.bind_eq_ok_iff.mpr ⟨_, overridden_of_reads habove _, ?_⟩
    exact check_eq_ok_iff.mpr ⟨rfl, hsound⟩

/-- **The error that wins.** The layers come in order, the file first. The check comes last, and
    only if all layers are right. -/
theorem load_eq_error_iff :
    load disk path default environment commandLine = .error e ↔
      FileLayer disk default path (.error e) ∨
      (∃ file, FileLayer disk default path (.ok file) ∧
        Source.environment.FirstError environment e) ∨
      (∃ file below, FileLayer disk default path (.ok file) ∧
        Source.environment.Reads environment below ∧
        Source.commandLine.FirstError commandLine e) ∨
      ∃ file below above problem, FileLayer disk default path (.ok file) ∧
        Source.environment.Reads environment below ∧ Source.commandLine.Reads commandLine above ∧
        (above.onto (below.onto file)).Flaw problem ∧ e = .config problem := by
  rw [load, Except.bind_eq_error_iff, resolve_eq_error_iff, or_assoc]
  -- what goes wrong above the environment goes wrong with the settings that it leaves
  refine or_congr_right (or_congr_right ?_)
  constructor
  · rintro ⟨resolved, hresolve, h⟩
    obtain ⟨file, below, hfile, hbelow, rfl⟩ := resolve_eq_ok_iff.mp hresolve
    rcases Except.bind_eq_error_iff.mp h with hover | ⟨merged, hmerged, hcheck⟩
    · exact .inl ⟨file, below, hfile, hbelow, overridden_eq_error_iff.mp hover⟩
    · obtain ⟨above, habove, rfl⟩ := overridden_eq_ok_iff.mp hmerged
      obtain ⟨problem, hflaw, rfl⟩ := check_eq_error_iff.mp hcheck
      exact .inr ⟨file, below, above, problem, hfile, hbelow, habove, hflaw, rfl⟩
  · rintro (⟨file, below, hfile, hbelow, hfirst⟩ |
      ⟨file, below, above, problem, hfile, hbelow, habove, hflaw, rfl⟩)
    · refine ⟨_, resolve_eq_ok_iff.mpr ⟨file, below, hfile, hbelow, rfl⟩, ?_⟩
      exact Except.bind_eq_error_iff.mpr (.inl (overridden_eq_error_iff.mpr hfirst))
    · refine ⟨_, resolve_eq_ok_iff.mpr ⟨file, below, hfile, hbelow, rfl⟩, ?_⟩
      refine Except.bind_eq_error_iff.mpr (.inr ⟨_, overridden_of_reads habove _, ?_⟩)
      exact check_eq_error_iff.mpr ⟨problem, hflaw, rfl⟩

/-- The upper layers leave the greatest length alone. -/
theorem maxLength_of_load {file : Config} (hfile : FileLayer disk default path (.ok file))
    (h : load disk path default environment commandLine = .ok config) :
    config.sequence.maxLength = file.sequence.maxLength := by
  obtain ⟨file', below, above, hfile', -, -, rfl, -⟩ := load_eq_ok_iff.mp h
  cases hfile.unique hfile'
  rfl

/-- A bad text in the environment is an error whatever the command line says. -/
theorem load_ne_ok_of_read {setting : Setting} {text : String}
    (htext : environment setting = some text)
    (hread : Source.environment.read setting text = .error e) :
    load disk path default environment commandLine ≠ .ok config := by
  intro h
  -- a load that succeeds needs the values of all texts of the environment
  obtain ⟨-, below, -, -, hbelow, -⟩ := load_eq_ok_iff.mp h
  obtain ⟨change, hchange⟩ :=
    exists_change_iff.mp ⟨_, Source.change_of_reads hbelow setting⟩ text htext
  rw [hread] at hchange
  cases hchange

/-- The flag for metrics turns them on, whatever the lower layers say. -/
theorem enabled_of_load {arguments : CommandLine.Arguments}
    (h : load disk path default environment arguments.lookup = .ok config)
    (hflag : arguments.isSet .metrics = true) : config.metrics.enabled = true := by
  obtain ⟨file, below, above, -, -, habove, rfl, -⟩ := load_eq_ok_iff.mp h
  -- the flag counts as the text "true", so the command line has a value for metrics
  have hmetrics := habove.metrics
  simp only [CommandLine.Arguments.lookup, hflag, if_true, Option.map_some] at hmetrics
  cases hvalue : above.metrics with
  | none =>
    rw [hvalue] at hmetrics
    cases hmetrics
  | some enabled =>
    rw [hvalue] at hmetrics
    have henabled : readFlag? "true" = some enabled := Option.some.inj hmetrics
    show above.metrics.getD _ = true
    rw [hvalue]
    exact (Option.some.inj henabled).symm

end Load

/-! ## Main result -/

/-- **Which settings are loaded, and which error wins**, for every disk, every environment and
    everything that can be said on the command line.

    Loading succeeds exactly when the file layer does, all given texts of both sources are right and
    the merged settings can be used; every setting then has the value of the highest layer that
    gives it. Otherwise the error is that of the lowest layer that is wrong, where a source reports
    its first bad text, or else the first reason why the merged settings cannot be used. -/
theorem load_layered (disk : Disk) (default : String) (environment : Environment)
    (arguments : CommandLine.Arguments) :
    (∀ config,
      load disk (arguments.value .config) default environment.lookup arguments.lookup = .ok config ↔
        ∃ file below above, FileLayer disk default (arguments.value .config) (.ok file) ∧
          Source.environment.Reads environment.lookup below ∧
          Source.commandLine.Reads arguments.lookup above ∧
          config = above.onto (below.onto file) ∧ config.Sound) ∧
    (∀ e,
      load disk (arguments.value .config) default environment.lookup arguments.lookup = .error e ↔
        FileLayer disk default (arguments.value .config) (.error e) ∨
        (∃ file, FileLayer disk default (arguments.value .config) (.ok file) ∧
          Source.environment.FirstError environment.lookup e) ∨
        (∃ file below, FileLayer disk default (arguments.value .config) (.ok file) ∧
          Source.environment.Reads environment.lookup below ∧
          Source.commandLine.FirstError arguments.lookup e) ∨
        ∃ file below above problem, FileLayer disk default (arguments.value .config) (.ok file) ∧
          Source.environment.Reads environment.lookup below ∧
          Source.commandLine.Reads arguments.lookup above ∧
          (above.onto (below.onto file)).Flaw problem ∧ e = .config problem) ∧
    (∀ file, FileLayer disk default (arguments.value .config) (.ok file) →
      arguments.value .config = none ∧ disk.has default = false ∧ file = {} ∨
        ∃ text document, disk.read ((arguments.value .config).getD default) = .ok text ∧
          Toml.read text = some document ∧ GivenBy .toml document file) ∧
    (∀ config,
      load disk (arguments.value .config) default environment.lookup arguments.lookup = .ok config →
        (arguments.isSet .metrics = true → config.metrics.enabled = true) ∧
        ∀ file, FileLayer disk default (arguments.value .config) (.ok file) →
          config.sequence.maxLength = file.sequence.maxLength) ∧
    ∀ setting text e, environment.lookup setting = some text →
      Source.environment.read setting text = .error e →
      ∀ config, load disk (arguments.value .config) default environment.lookup arguments.lookup ≠
        .ok config := by
  refine ⟨fun config => load_eq_ok_iff, fun e => load_eq_error_iff, fun file => FileLayer.origin,
    fun config h => ⟨enabled_of_load h, fun file hfile => maxLength_of_load hfile h⟩, ?_⟩
  intro setting text e htext hread config
  exact load_ne_ok_of_read htext hread

/-- A disk on which there is one file of settings, under the default name. -/
def oneFile : Disk where
  read path :=
    if path = defaultPath then
      .ok "[sequence]\nlength = 10\nstart = 1\nelement_type = \"u8\"\nmax_length = 500\n"
    else .error .notFound
  has path := path = defaultPath

/-- An environment that gives a length, a first value and metrics. -/
def someVariables : Environment := fun name =>
  List.lookup name [("SF_LENGTH", "6"), ("SF_START", " 2 "), ("SF_METRICS", "off")]

/-- Arguments that give a length and metrics. -/
def someArguments : CommandLine.Arguments :=
  (CommandLine.Arguments.empty.withValue .length "3").withFlag .metrics

/-- The type is from the file, the first value from the environment, the length and metrics from
    the command line; and a bad text for metrics in the environment is an error, although the
    command line turns them on. -/
theorem load_layered_oneFile :
    (∃ config file,
      load oneFile none defaultPath someVariables.lookup someArguments.lookup = .ok config ∧
        config.sequence.elementType = .u8 ∧ config.sequence.start = 2 ∧
        config.sequence.length = 3 ∧ config.metrics.enabled = true ∧
        FileLayer oneFile defaultPath none (.ok file) ∧
        config.sequence.maxLength = file.sequence.maxLength ∧
        ∃ text document, oneFile.read defaultPath = .ok text ∧ Toml.read text = some document ∧
          GivenBy .toml document file) ∧
      ∀ config, load oneFile none defaultPath (Environment.lookup fun _ => some "maybe")
        someArguments.lookup ≠ .ok config := by
  obtain ⟨hok, -, horigin, hkept, -⟩ := load_layered oneFile defaultPath someVariables someArguments
  have hbad := (load_layered oneFile defaultPath (fun _ => some "maybe") someArguments).2.2.2.2
  have hpath : someArguments.value .config = none := rfl
  have hflag : someArguments.isSet .metrics = true := rfl
  rw [hpath] at hok horigin hkept hbad
  constructor
  · have hload : (load oneFile none defaultPath someVariables.lookup someArguments.lookup).toOption
        = some { sequence := { elementType := .u8, start := 2, length := 3, maxLength := 500 }
                 metrics := { enabled := true } } := by
      decide +kernel
    have hload := Except.eq_ok_of_toOption hload
    obtain ⟨file, below, above, hfile, -⟩ := (hok _).mp hload
    obtain ⟨hmetrics, hmax⟩ := hkept _ hload
    refine ⟨_, file, hload, rfl, rfl, rfl, hmetrics hflag, hfile, hmax file hfile, ?_⟩
    rcases horigin file hfile with ⟨-, habsent, -⟩ | hdocument
    · exact absurd habsent (by decide)
    · exact hdocument
  · have hread : Source.environment.read .metrics "maybe" =
        .error (.config (.flag "SF_METRICS" "maybe")) := by
      have hflag : readFlag? "maybe" = none := by decide +kernel
      simp only [Source.read, hflag, Setting.variableName]
    exact hbad .metrics "maybe" _ rfl hread

end Config

end Ramp
