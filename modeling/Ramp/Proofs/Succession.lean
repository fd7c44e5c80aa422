import Ramp.Proofs.Interchange

/-!
# `Proofs.Succession` — passes one after the other

A pass over the settings is told by two things that do not depend on the settings it starts from:
the values that it puts above them, and how it ends (`exists_override_eq`). Even a pass that meets a
bad text is one: what it leaves behind is what the texts before that one leave behind. All laws of
passes in a row follow. A second pass comes to the same as one pass with its texts above those of
the first; the same pass again changes nothing; and passes that speak of different settings can
change places.

## Contents
- `Lookup.restrict`; `override_of_bad`: a pass that meets a bad text, and the texts before it.
- `exists_override_eq`: what a pass is, whatever it starts from.
- `Environment.overlay`; `overridden_overlay`: two passes and the one pass that they come to.
- `override_succession`: the laws together, for the environment.
-/

namespace Ramp

/-- The texts for some settings only. -/
def Lookup.restrict (settings : List Setting) (texts : Lookup) : Lookup := fun setting =>
  if setting ∈ settings then texts setting else none

/-- Among the texts for the settings before one there is none for it, and none for a later one. -/
theorem Lookup.restrict_eq_none {before after : List Setting} {setting other : Setting}
    (hall : Setting.all = before ++ setting :: after) (hother : other ∈ setting :: after)
    (texts : Lookup) : texts.restrict before other = none := by
  have hnodup : (before ++ setting :: after).Nodup := by
    rw [← hall]
    decide
  refine if_neg fun hmem => ?_
  exact (List.nodup_append.mp hnodup).2.2 other hmem other hother rfl

/-- The variables of `above`, and those of `below` where `above` has none. -/
def Environment.overlay (above below : Environment) : Environment := fun name =>
  (above name).or (below name)

theorem Environment.lookup_overlay (above below : Environment) :
    (above.overlay below).lookup = above.lookup.overlay below.lookup :=
  rfl

/-- Texts for different settings can be laid over one another either way. -/
theorem Lookup.overlay_comm {upper lower : Lookup}
    (h : ∀ setting, upper setting = none ∨ lower setting = none) :
    upper.overlay lower = lower.overlay upper := by
  funext setting
  rcases h setting with hnone | hnone <;> simp [Lookup.overlay, hnone]

/-- Values put above settings twice are there once. -/
theorem Overrides.onto_onto_self (values : Overrides) (config : Config) :
    values.onto (values.onto config) = values.onto config := by
  rw [← Overrides.onto_overlay]
  simp only [Overrides.overlay, Option.or_self]

namespace Config

variable {source : Source} {texts upper lower : Lookup} {config first result : Config}

/-! ## A single pass -/

/-- Only the texts of the settings in the list matter. -/
theorem overrideAll_congr {other : Lookup} {settings : List Setting}
    (h : ∀ setting ∈ settings, texts setting = other setting) (config : Config) :
    overrideAll source texts settings config = overrideAll source other settings config := by
  induction settings generalizing config with
  | nil => rfl
  | cons setting rest ih =>
    have hchange : source.change texts setting = source.change other setting := by
      rw [Source.change, Source.change, h setting (by simp)]
    rw [overrideAll_cons, overrideAll_cons, hchange]
    cases source.change other setting with
    | ok change => exact ih (fun other hother => h other (by simp [hother])) (change config)
    | error e => rfl

/-- **A pass that meets a bad text** leaves what the texts before that one leave, and these are all
    right. -/
theorem override_of_bad {before after : List Setting} {setting : Setting} {e : Error}
    (hall : Setting.all = before ++ setting :: after)
    (hbefore : ∀ earlier ∈ before, ∃ change, source.change texts earlier = .ok change)
    (hbad : source.change texts setting = .error e) (config : Config) :
    config.override source texts =
        ((config.override source (texts.restrict before)).1, .error e) ∧
      (config.override source (texts.restrict before)).2 = .ok () := by
  -- both passes agree on the settings before the bad text, and these are read without an error
  have hsame : overrideAll source (texts.restrict before) before config =
      overrideAll source texts before config :=
    overrideAll_congr (fun earlier hearlier => if_pos hearlier) config
  have hok : (overrideAll source texts before config).2 = .ok () :=
    snd_overrideAll_eq_ok_iff.mpr hbefore
  -- behind them one pass ends at the bad text, and the other has nothing to read
  have hnone : ∀ later ∈ setting :: after, texts.restrict before later = none :=
    fun later hlater => Lookup.restrict_eq_none hall hlater texts
  rw [override, override, hall, overrideAll_append, overrideAll_append, hsame]
  rcases hpass : overrideAll source texts before config with ⟨left, e' | _⟩
  · rw [hpass] at hok
    cases hok
  · simp only [overrideAll_of_none source hnone, overrideAll_cons, hbad]
    exact ⟨trivial, trivial⟩

/-- A pass over right texts puts their values above the settings. -/
theorem override_of_reads {values : Overrides} (h : source.Reads texts values) (config : Config) :
    config.override source texts = (values.onto config, .ok ()) :=
  overridden_eq_ok_iff_overrideAll.mp (overridden_of_reads h config)

/-- **What a pass is.** It puts the same values above any settings, and ends in the same way. -/
theorem exists_override_eq (source : Source) (texts : Lookup) :
    ∃ (values : Overrides) (ending : Except Error Unit),
      ∀ config, override source texts config = (values.onto config, ending) := by
  cases hending : (override source texts {}).2 with
  | ok done =>
    have hchange := snd_overrideAll_eq_ok_iff.mp hending
    obtain ⟨values, hvalues⟩ := Source.exists_reads fun setting => hchange setting setting.mem_all
    exact ⟨values, .ok (), override_of_reads hvalues⟩
  | error e =>
    obtain ⟨before, setting, after, hall, hbefore, hbad⟩ :=
      snd_overrideAll_eq_error_iff.mp hending
    have hpass := override_of_bad hall hbefore hbad
    -- the texts before the bad one have values, and these are what the pass leaves
    have hchange := snd_overrideAll_eq_ok_iff.mp (hpass {}).2
    obtain ⟨values, hvalues⟩ := Source.exists_reads fun setting => hchange setting setting.mem_all
    refine ⟨values, .error e, fun config => ?_⟩
    rw [(hpass config).1, override_of_reads hvalues]

/-- The same pass again changes nothing and ends in the same way. -/
theorem override_override (source : Source) (texts : Lookup) (config : Config) :
    override source texts (override source texts config).1 = override source texts config := by
  obtain ⟨values, ending, hpass⟩ := exists_override_eq source texts
  rw [hpass, hpass, Overrides.onto_onto_self]

/-- No pass changes the greatest length, not even one that meets a bad text. -/
theorem maxLength_override (source : Source) (texts : Lookup) (config : Config) :
    (override source texts config).1.sequence.maxLength = config.sequence.maxLength := by
  obtain ⟨values, ending, hpass⟩ := exists_override_eq source texts
  rw [hpass]
  rfl

/-! ## Two passes -/

/-- The first bad text of the upper ones is the first bad text of both, if the lower ones are
    right. -/
theorem firstError_overlay {values : Overrides} {e : Error} (hlower : source.Reads lower values)
    (h : source.FirstError upper e) : source.FirstError (upper.overlay lower) e := by
  obtain ⟨before, setting, after, text, hall, hbefore, htext, hbad⟩ := h
  refine ⟨before, setting, after, text, hall, fun earlier hearlier other hother => ?_, ?_, hbad⟩
  · rw [Lookup.overlay] at hother
    cases habove : upper earlier with
    | some above =>
      rw [habove, Option.some_or] at hother
      exact hbefore earlier hearlier other (habove.trans hother)
    | none =>
      rw [habove, Option.none_or] at hother
      exact exists_change_iff.mp ⟨_, Source.change_of_reads hlower earlier⟩ other hother
  · rw [Lookup.overlay, htext, Option.some_or]

/-- **Two passes come to one**: a pass on what another one leaves, if that met no bad text, is a
    pass with its texts above those of the other one, be the result settings or an error. -/
theorem overridden_overlay (h : config.overridden source lower = .ok first) :
    first.overridden source upper = config.overridden source (upper.overlay lower) := by
  obtain ⟨below, hbelow, rfl⟩ := overridden_eq_ok_iff.mp h
  cases hupper : (below.onto config).overridden source upper with
  | ok result =>
    obtain ⟨above, habove, rfl⟩ := overridden_eq_ok_iff.mp hupper
    rw [overridden_of_reads (habove.overlay hbelow), Overrides.onto_overlay]
  | error e =>
    have hfirst := firstError_overlay hbelow (overridden_eq_error_iff.mp hupper)
    exact (overridden_eq_error_iff.mpr hfirst).symm

/-- Two passes without bad texts come to the one pass. -/
theorem bind_overridden_eq_ok_iff :
    (config.overridden source lower >>= fun first => first.overridden source upper) = .ok result ↔
      (∃ values, source.Reads lower values) ∧
        config.overridden source (upper.overlay lower) = .ok result := by
  rw [Except.bind_eq_ok_iff]
  constructor
  · rintro ⟨first, hfirst, hresult⟩
    obtain ⟨values, hvalues, -⟩ := overridden_eq_ok_iff.mp hfirst
    exact ⟨⟨values, hvalues⟩, (overridden_overlay hfirst).symm.trans hresult⟩
  · rintro ⟨⟨values, hvalues⟩, hresult⟩
    have hfirst := overridden_of_reads hvalues config
    exact ⟨values.onto config, hfirst, (overridden_overlay hfirst).trans hresult⟩

/-- If all texts are right, so are the lower ones, provided no upper one hides them. -/
theorem exists_reads_lower (hapart : ∀ setting, upper setting = none ∨ lower setting = none)
    (h : config.overridden source (upper.overlay lower) = .ok result) :
    ∃ values, source.Reads lower values := by
  obtain ⟨values, hvalues, -⟩ := overridden_eq_ok_iff.mp h
  rw [Lookup.overlay_comm hapart] at hvalues
  exact Source.exists_reads_of_overlay hvalues

/-- **Passes that speak of different settings can change places.** -/
theorem bind_overridden_comm (hapart : ∀ setting, upper setting = none ∨ lower setting = none) :
    (config.overridden source lower >>= fun first => first.overridden source upper) = .ok result ↔
      (config.overridden source upper >>= fun first => first.overridden source lower) =
        .ok result := by
  have hcomm := Lookup.overlay_comm hapart
  have hapart' : ∀ setting, lower setting = none ∨ upper setting = none :=
    fun setting => (hapart setting).symm
  rw [bind_overridden_eq_ok_iff, bind_overridden_eq_ok_iff, ← hcomm]
  constructor
  · rintro ⟨-, hresult⟩
    exact ⟨exists_reads_lower hapart' (hcomm ▸ hresult), hresult⟩
  · rintro ⟨-, hresult⟩
    exact ⟨exists_reads_lower hapart hresult, hresult⟩

/-! ## Main result -/

/-- **Passes over environments in a row.** If the first one meets no bad text, the second one comes
    to a single pass with its variables above those of the first. Any pass done twice is done once,
    also one that ends at a bad text. Passes with variables for different settings can change
    places. A pass sees nothing of its environment but the variables of the settings, and never
    changes the greatest length. -/
theorem override_succession (upper lower : Environment) (config : Config) :
    (∀ first, config.overridden .environment lower.lookup = .ok first →
      first.overridden .environment upper.lookup =
        config.overridden .environment (upper.overlay lower).lookup) ∧
    (config.override .environment lower.lookup).1.override .environment lower.lookup =
      config.override .environment lower.lookup ∧
    ((∀ setting : Setting,
        upper setting.variableName = none ∨ lower setting.variableName = none) →
      ∀ result,
        (config.overridden .environment lower.lookup >>=
          fun first => first.overridden .environment upper.lookup) = .ok result ↔
        (config.overridden .environment upper.lookup >>=
          fun first => first.overridden .environment lower.lookup) = .ok result) ∧
    (∀ other : Environment,
      (∀ setting : Setting, other setting.variableName = lower setting.variableName) →
        config.override .environment other.lookup = config.override .environment lower.lookup) ∧
    (config.override .environment lower.lookup).1.sequence.maxLength =
      config.sequence.maxLength := by
  refine ⟨fun first hfirst => ?_, override_override _ _ config,
    fun hapart result => bind_overridden_comm hapart, fun other hsame => ?_,
    maxLength_override _ _ config⟩
  · rw [Environment.lookup_overlay]
    exact overridden_overlay hfirst
  · exact overrideAll_congr (fun setting _ => hsame setting) config

/-- An environment that gives a length and a separator. -/
def otherVariables : Environment := fun name =>
  List.lookup name [("SF_LENGTH", "9"), ("SF_SEPARATOR", ",")]

/-- An environment that gives a type, and something that is no setting. -/
def typeVariable : Environment := fun name =>
  List.lookup name [("SF_ELEMENT_TYPE", "U8"), ("LANG", "C")]

/-- The length that is given twice is the later one, and what is given once is kept. The type can be
    given before or after, and what is no setting makes no difference. -/
theorem override_succession_lengthTwice :
    (∃ first result, Config.overridden .environment someVariables.lookup {} = .ok first ∧
      first.overridden .environment otherVariables.lookup = .ok result ∧
      Config.overridden .environment (otherVariables.overlay someVariables).lookup {} =
        .ok result ∧
      result = { sequence.length := 9, sequence.start := 2, output.separator := "," }) ∧
    (∃ result,
      (Config.overridden .environment someVariables.lookup {} >>=
        fun first => first.overridden .environment typeVariable.lookup) = .ok result ∧
      (Config.overridden .environment typeVariable.lookup {} >>=
        fun first => first.overridden .environment someVariables.lookup) = .ok result ∧
      result = { sequence := { elementType := .u8, start := 2, length := 6 } }) ∧
    Config.override .environment
        (Environment.lookup fun name => if name = "LANG" then none else typeVariable name) {} =
      Config.override .environment typeVariable.lookup {} := by
  obtain ⟨htwo, -, -, -, -⟩ := override_succession otherVariables someVariables {}
  obtain ⟨-, -, hswap, -, -⟩ := override_succession typeVariable someVariables {}
  obtain ⟨-, -, -, hsame, -⟩ := override_succession someVariables typeVariable {}
  have hapart : ∀ setting : Setting, typeVariable setting.variableName = none ∨
      someVariables setting.variableName = none := by
    intro setting
    cases setting <;> decide
  have hfirst : (Config.overridden .environment someVariables.lookup {}).toOption =
      some { sequence.length := 6, sequence.start := 2 } := by
    decide +kernel
  have hresult : (Config.overridden .environment otherVariables.lookup
      { sequence.length := 6, sequence.start := 2 }).toOption =
        some { sequence.length := 9, sequence.start := 2, output.separator := "," } := by
    decide +kernel
  have hboth : (Config.overridden .environment someVariables.lookup {} >>=
      fun first => first.overridden .environment typeVariable.lookup).toOption =
        some { sequence := { elementType := .u8, start := 2, length := 6 } } := by
    decide +kernel
  have hfirst := Except.eq_ok_of_toOption hfirst
  have hresult := Except.eq_ok_of_toOption hresult
  have hboth := Except.eq_ok_of_toOption hboth
  refine ⟨⟨_, _, hfirst, hresult, (htwo _ hfirst).symm.trans hresult, rfl⟩,
    ⟨_, hboth, (hswap hapart _).mp hboth, rfl⟩, hsame _ fun setting => ?_⟩
  cases setting <;> decide

end Config

end Ramp
