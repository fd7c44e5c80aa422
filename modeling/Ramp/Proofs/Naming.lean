import Mathlib.Data.List.Forall2
import Ramp.Proofs.SettingsText
import Ramp.Proofs.Succession

/-!
# `Proofs.Naming` — which texts name a choice

Choices are made by words: element types and formats by their names, and whether there are metrics
by one of eight words. Whoever reads a text for a word takes off the blanks around it, folds the
capitals and looks the rest up. What that accepts is said here without folding: a text gives a word
if, between the blanks at its ends, it is this word letter by letter (`Text.Gives`), where the only
letters with two forms are the 26 of ASCII (`Text.SameLetter`). The four readers differ in their
words and in the error of a refusal, and in nothing else (`TakesWords`). Documents are read without
taking anything off or folding anything; what they accept, the readers of free text accept too.

## Contents
- `Text.SameLetter` with `sameLetter_iff`: letters in either case.
- `Text.IsTrimOf`, `Text.Gives` with `gives_iff`: the texts that give a word.
- `Text.Respells` with `normalize_of_respells`: texts that differ in blanks and case alone.
- `TakesWords` with `takesWords_of_normalize`: readers of words.
- `IsNameReader` with `isNameReader_of_ofText?`: readers of names, beside those of documents;
  `ElementType.isNameReader_ofText` and its siblings.
- `metricsWords`, `Config.SetsMetrics`, `Config.RefusesMetrics`: what the variable for metrics does,
  whatever the others are; `override_eq_overrideAll_metrics`, `takesWords_metrics`.
- `Named.readers_take_words`: the main result.
-/

namespace Ramp

namespace Text

variable {c d : Char} {cs middle : List Char} {text other word : String}

/-! ## Letters in either case -/

/-- Two characters are the same but for the case of an ASCII letter: they are equal, or one is the
    capital and the other one the small form of the same one of 26 letters. -/
def SameLetter (c d : Char) : Prop :=
  c = d ∨ ∃ k < 26, c.toNat = 65 + k ∧ d.toNat = 97 + k ∨ c.toNat = 97 + k ∧ d.toNat = 65 + k

/-- **Two characters are the same letter exactly if they are folded to the same character.** -/
theorem sameLetter_iff : SameLetter c d ↔ c.toLower = d.toLower := by
  rw [← Char.toNat_inj, toNat_toLower, toNat_toLower]
  constructor
  · rintro (rfl | ⟨k, hk, hcase⟩)
    · rfl
    · split <;> split <;> omega
  · intro h
    split at h <;> split at h
    · exact Or.inl (Char.toNat_inj.mp (by omega))
    · exact Or.inr ⟨c.toNat - 65, by omega, by omega⟩
    · exact Or.inr ⟨d.toNat - 65, by omega, by omega⟩
    · exact Or.inl (Char.toNat_inj.mp h)

/-- Letter by letter two texts are the same exactly if they are folded to the same text. -/
theorem forall₂_sameLetter_iff {first second : List Char} :
    List.Forall₂ SameLetter first second ↔
      first.map Char.toLower = second.map Char.toLower := by
  rw [← List.forall₂_eq_eq_eq, List.forall₂_map_left_iff, List.forall₂_map_right_iff]
  simp only [← sameLetter_iff]

/-- No letter beyond ASCII is the same as one of ASCII. -/
theorem toNat_lt_of_sameLetter (h : SameLetter c d) (hd : d.toNat < 128) : c.toNat < 128 := by
  rcases h with rfl | ⟨k, hk, hcase⟩ <;> omega

/-! ## The texts that give a word -/

/-- **What is between the blanks at the two ends** of a list of characters: it has nothing but
    blanks around it, and neither starts nor ends with one. -/
structure IsTrimOf (middle cs : List Char) : Prop where
  around : ∃ front back, cs = front ++ middle ++ back ∧
    (∀ c ∈ front, isBlank c = true) ∧ ∀ c ∈ back, isBlank c = true
  head : ∀ c ∈ middle.head?, isBlank c = false
  last : ∀ c ∈ middle.getLast?, isBlank c = false

/-- There is exactly one such list. -/
theorem isTrimOf_iff : IsTrimOf middle cs ↔ trimChars cs = middle := by
  constructor
  · rintro ⟨⟨front, back, rfl, hfront, hback⟩, hhead, hlast⟩
    rw [trimChars_append hfront hback, trimChars_eq_self hhead hlast]
  · rintro rfl
    obtain ⟨front, back, hfront, hback, hcs⟩ := exists_append_trimChars cs
    exact ⟨⟨front, back, hcs, hfront, hback⟩, head?_trimChars cs, getLast?_trimChars cs⟩

/-- **A text gives a word** if it is this word without the blanks at its ends, up to the case of
    ASCII letters. -/
def Gives (text word : String) : Prop :=
  ∃ middle, IsTrimOf middle text.toList ∧ List.Forall₂ SameLetter middle word.toList

/-- A text gives the words with its normal form. -/
theorem gives_iff : Gives text word ↔ lower word = normalize text := by
  unfold Gives
  simp only [isTrimOf_iff, exists_eq_left', forall₂_sameLetter_iff]
  rw [← String.toList_inj, toList_lower, toList_normalize]
  exact eq_comm

/-- Whether all characters of a text are of ASCII. -/
def isAscii (text : String) : Bool :=
  text.toList.all fun c => decide (c.toNat < 128)

/-- All characters of a text that gives an ASCII word are of ASCII, or blanks at its ends. -/
theorem Gives.isAscii (h : Gives text word) (hword : isAscii word = true) :
    ∀ c ∈ text.toList, isBlank c = true ∨ c.toNat < 128 := by
  obtain ⟨middle, ⟨⟨front, back, htext, hfront, hback⟩, -, -⟩, hletters⟩ := h
  intro c hc
  rw [htext, List.mem_append, List.mem_append] at hc
  rcases hc with (hc | hc) | hc
  · exact Or.inl (hfront c hc)
  · right
    have hfolded : c.toLower ∈ word.toList.map Char.toLower := by
      rw [← forall₂_sameLetter_iff.mp hletters]
      exact List.mem_map_of_mem hc
    obtain ⟨d, hd, hsame⟩ := List.mem_map.mp hfolded
    have hascii : d.toNat < 128 := of_decide_eq_true (List.all_eq_true.mp hword d hd)
    exact toNat_lt_of_sameLetter (sameLetter_iff.mpr hsame.symm) hascii
  · exact Or.inl (hback c hc)

/-- **Another spelling of a text**: blanks are added at its ends, and ASCII letters are changed to
    their other case. -/
def Respells (other text : String) : Prop :=
  ∃ front middle back, other.toList = front ++ middle ++ back ∧
    (∀ c ∈ front, isBlank c = true) ∧ (∀ c ∈ back, isBlank c = true) ∧
    List.Forall₂ SameLetter middle text.toList

/-- Another spelling has the same normal form. -/
theorem normalize_of_respells (h : Respells other text) : normalize other = normalize text := by
  obtain ⟨front, middle, back, hother, hfront, hback, hletters⟩ := h
  apply String.toList_injective
  rw [toList_normalize, toList_normalize, hother, trimChars_append hfront hback,
    ← trimChars_map_toLower, ← trimChars_map_toLower, forall₂_sameLetter_iff.mp hletters]

end Text

/-! ## Readers of words -/

/-- **How words are read.** A reader accepts some texts, each with a value, and refuses some, each
    with an error. Every value has its words. -/
structure TakesWords {β : Type} (words : β → List String) (accepts : String → β → Prop)
    (refuses : String → Error → Prop) (kind : String) (wording : String → String) : Prop where
  /-- Exactly the texts that give a word of a value are accepted with this value. -/
  accepts_iff : ∀ text b, accepts text b ↔ ∃ word ∈ words b, Text.Gives text word
  /-- No text gives words of two values. -/
  unique : ∀ text, ∀ a, ∀ word ∈ words a, ∀ b, ∀ other ∈ words b,
    Text.Gives text word → Text.Gives text other → a = b
  /-- Blanks at the ends and the case of ASCII letters make no difference. -/
  respelled : ∀ text other, Text.Respells other text → ∀ b, accepts other b ↔ accepts text b
  /-- No letter beyond ASCII passes for a letter of a word. -/
  isAscii : ∀ text b, accepts text b → ∀ c ∈ text.toList, Text.isBlank c = true ∨ c.toNat < 128
  /-- What is not accepted is refused. -/
  refuses_iff : ∀ text, (∃ e, refuses text e) ↔ ∀ b, ¬ accepts text b
  /-- The error is of one kind and quotes the text as it is. -/
  error : ∀ text e, refuses text e → e.kind = kind ∧ e.message = wording text

/-- **A reader that looks up normal forms takes words**, if its words are small and of ASCII, and no
    two values share one. -/
theorem takesWords_of_normalize {β : Type} {words : β → List String}
    {accepts : String → β → Prop} {refuses : String → Error → Prop} {kind : String}
    {wording : String → String} {refusal : String → Error}
    (hlower : ∀ b, ∀ word ∈ words b, Text.lower word = word)
    (hascii : ∀ b, ∀ word ∈ words b, Text.isAscii word = true)
    (hshared : ∀ a b word, word ∈ words a → word ∈ words b → a = b)
    (haccepts : ∀ text b, accepts text b ↔ Text.normalize text ∈ words b)
    (hrefuses : ∀ text e, refuses text e ↔ (∀ b, ¬ accepts text b) ∧ e = refusal text)
    (hkind : ∀ text, (refusal text).kind = kind)
    (hwording : ∀ text, (refusal text).message = wording text) :
    TakesWords words accepts refuses kind wording := by
  have hgives : ∀ text b, ∀ word ∈ words b, Text.Gives text word ↔ word = Text.normalize text := by
    intro text b word hword
    rw [Text.gives_iff, hlower b word hword]
  have hiff : ∀ text b, accepts text b ↔ ∃ word ∈ words b, Text.Gives text word := by
    intro text b
    rw [haccepts]
    constructor
    · intro h
      exact ⟨_, h, (hgives text b _ h).mpr rfl⟩
    · rintro ⟨word, hword, h⟩
      exact (hgives text b word hword).mp h ▸ hword
  refine ⟨hiff, ?_, ?_, ?_, ?_, ?_⟩
  · intro text a word hword b other hother htext htext'
    have hsame : word = other :=
      ((hgives text a word hword).mp htext).trans ((hgives text b other hother).mp htext').symm
    exact hshared a b word hword (hsame ▸ hother)
  · intro text other h b
    rw [haccepts, haccepts, Text.normalize_of_respells h]
  · intro text b h
    obtain ⟨word, hword, htext⟩ := (hiff text b).mp h
    exact htext.isAscii (hascii b word hword)
  · intro text
    constructor
    · rintro ⟨e, he⟩
      exact ((hrefuses text e).mp he).1
    · intro h
      exact ⟨refusal text, (hrefuses text _).mpr ⟨h, rfl⟩⟩
  · intro text e he
    obtain ⟨-, rfl⟩ := (hrefuses text e).mp he
    exact ⟨hkind text, hwording text⟩

/-! ## Readers of names -/

/-- The value that is read from a whole JSON text is the one of its document. -/
theorem Json.ofDocument_of_decode {α : Type} {ofDocument : Document → Except Fault α}
    {json : String} {a : α} (h : Json.decode ofDocument json = .ok a) :
    ofDocument (Json.read json).document = .ok a := by
  obtain ⟨value, hvalue, hwhole⟩ := Except.bind_eq_ok_iff.mp h
  split at hwhole
  · cases hwhole
    exact hvalue
  · cases hwhole

section Names

variable {α : Type} [Named α]

/-- **How names are read** from free text, beside how they are read from documents. -/
structure IsNameReader (read : String → Except Error α) (kind : String)
    (wording : String → String) : Prop where
  /-- The words are the names. -/
  words : TakesWords (fun a : α => [Named.name a]) (fun text a => read text = .ok a)
    (fun text e => read text = .error e) kind wording
  /-- What a document accepts as a text is accepted as free text, with the same value. -/
  of_choice : ∀ dialect text a, Document.choice α dialect (.string (some text)) = .ok a →
    read text = .ok a
  /-- That holds for whole JSON texts, too. -/
  of_ofJson : ∀ json text a, (Json.read json).document = .string (some text) →
    Named.ofJson α json = .ok a → read text = .ok a
  /-- The text that a value is written as is read as this value, in documents and as free text. -/
  written : ∀ a : α, ∃ text, Config.nameDocument a = .string (some text) ∧ read text = .ok a ∧
    ∀ dialect, Document.choice α dialect (.string (some text)) = .ok a
  /-- And so it is in JSON. -/
  ofJson_toJson : ∀ a : α, Named.ofJson α (Named.toJson a) = .ok a

/-- Folding changes no name. -/
theorem Named.lower_name (a : α) : Text.lower (Named.name a) = Named.name a := by
  have hnormal := congrArg String.toList (Named.normalize_name a)
  rw [Text.toList_normalize] at hnormal
  apply String.toList_injective
  rw [Text.toList_lower, ← hnormal, List.map_map]
  apply List.map_congr_left
  intro c _
  exact Text.toLower_toLower c

/-- A document that is a text is accepted only if the text is a name. -/
theorem Document.name_of_choice {dialect : Dialect} {text : String} {a : α}
    (h : Document.choice α dialect (.string (some text)) = .ok a) : Named.name a = text := by
  have hmember : Document.member α text = .ok a := by
    cases dialect <;> exact h
  rw [Document.member] at hmember
  rw [← Named.ofName?_eq_some_iff]
  split at hmember
  · rename_i b hb
    rw [hb, Except.ok.inj hmember]
  · cases hmember

/-- **A reader that looks names up is a reader of names.** -/
theorem isNameReader_of_ofText? {read : String → Except Error α} {kind : String}
    {wording : String → String} (refusal : String → Error)
    (hascii : ∀ a : α, Text.isAscii (Named.name a) = true)
    (hread : ∀ text, read text = (Named.ofText? text).elim (.error (refusal text)) .ok)
    (hkind : ∀ text, (refusal text).kind = kind)
    (hwording : ∀ text, (refusal text).message = wording text) :
    IsNameReader read kind wording := by
  have hok : ∀ text a, read text = .ok a ↔ Named.name a = Text.normalize text := by
    intro text a
    rw [hread, ← Named.ofText?_eq_some_iff]
    cases Named.ofText? (α := α) text <;> simp
  have herror : ∀ text e, read text = .error e ↔ (∀ a, read text ≠ .ok a) ∧ e = refusal text := by
    intro text e
    simp only [hread]
    cases Named.ofText? (α := α) text <;> simp [eq_comm]
  have hname : ∀ text a, Named.name a = text → read text = .ok a := by
    rintro text a rfl
    rw [hok, Named.normalize_name]
  constructor
  case words =>
    refine takesWords_of_normalize ?_ ?_ ?_ ?_ herror hkind hwording
    · simpa using Named.lower_name
    · simpa using hascii
    · intro a b word ha hb
      exact Named.name_inj a b ((List.mem_singleton.mp ha).symm.trans (List.mem_singleton.mp hb))
    · intro text a
      rw [hok, List.mem_singleton, eq_comm]
  case of_choice =>
    intro dialect text a h
    exact hname text a (Document.name_of_choice h)
  case of_ofJson =>
    intro json text a htext h
    have hchoice := Json.ofDocument_of_decode h
    rw [htext] at hchoice
    exact hname text a (Document.name_of_choice hchoice)
  case written =>
    intro a
    exact ⟨Named.name a, rfl, hname _ a rfl, fun dialect => Document.choice_nameDocument dialect a⟩
  case ofJson_toJson =>
    intro a
    have hplain : (Config.nameDocument a).IsPlain := .string _
    rw [Named.ofJson, Named.toJson, Json.decode_write hplain]
    exact Document.choice_nameDocument .json a

end Names

/-- The wording of a refusal, with what stands before the text and behind it put together. -/
theorem wording_eq {kind opening options before behind : String} (text : String)
    (hbefore : kind ++ opening = before) (hbehind : ". " ++ options = behind) :
    kind ++ (opening ++ text ++ ". " ++ options) = before ++ text ++ behind := by
  rw [← hbefore, ← hbehind]
  simp only [String.append_assoc]

theorem ElementType.isNameReader_ofText :
    IsNameReader ElementType.ofText "InvalidInput" fun text =>
      "Invalid input: Unknown element type: " ++ text ++
        ". Valid options: i8, i16, i32, i64, isize, u8, u16, u32, u64, usize" := by
  refine isNameReader_of_ofText? _ ?_ ElementType.ofText_eq (fun _ => rfl)
    (fun text => wording_eq text (by decide) (by decide))
  intro ty
  cases ty <;> decide

theorem OutputFormat.isNameReader_ofText :
    IsNameReader OutputFormat.ofText "Config" fun text =>
      "Configuration error: Invalid output format: " ++ text ++ ". Valid options: text, json" := by
  refine isNameReader_of_ofText? _ ?_ OutputFormat.ofText_eq (fun _ => rfl)
    (fun text => wording_eq text (by decide) (by decide))
  intro format
  cases format <;> decide

theorem LogFormat.isNameReader_ofText :
    IsNameReader LogFormat.ofText "Config" fun text =>
      "Configuration error: Invalid log format: " ++ text ++
        ". Valid options: pretty, compact, json" := by
  refine isNameReader_of_ofText? _ ?_ LogFormat.ofText_eq (fun _ => rfl)
    (fun text => wording_eq text (by decide) (by decide))
  intro format
  cases format <;> decide

/-! ## The variable for metrics -/

/-- The words that turn metrics on, and those that turn them off. -/
def metricsWords (enabled : Bool) : List String :=
  if enabled then ["1", "true", "yes", "on"] else ["0", "false", "no", "off"]

/-- The words are looked up by normal forms. -/
theorem readFlag?_eq_some_iff {text : String} {enabled : Bool} :
    readFlag? text = some enabled ↔ Text.normalize text ∈ metricsWords enabled := by
  unfold readFlag?
  constructor
  · intro h
    have hwords : ∀ entry ∈ flagWords, entry.1 ∈ metricsWords entry.2 := by decide
    obtain ⟨before, after, hlist, -⟩ := List.lookup_eq_some_iff.mp h
    exact hwords (Text.normalize text, enabled) (by rw [hlist]; simp)
  · intro h
    have hlookup : ∀ word ∈ metricsWords enabled, flagWords.lookup word = some enabled := by
      cases enabled <;> decide
    exact hlookup _ h

/-- The variables but one. -/
def Environment.without (environment : Environment) (name : String) : Environment := fun other =>
  if other = name then none else environment other

namespace Config

variable {text : String} {enabled : Bool} {e : Error} {environment : Environment}
  {config rest : Config}

/-- With this text in its variable, metrics are set to this. All else is as the other variables have
    it. -/
def SetsMetrics (text : String) (enabled : Bool) : Prop :=
  ∀ (environment : Environment) (config rest : Config), environment "SF_METRICS" = some text →
    override .environment (environment.without "SF_METRICS").lookup config = (rest, .ok ()) →
    override .environment environment.lookup config =
      ({ rest with metrics.enabled := enabled }, .ok ())

/-- With this text in its variable there is this error, if there is none in the other variables. -/
def RefusesMetrics (text : String) (e : Error) : Prop :=
  ∀ (environment : Environment) (config rest : Config), environment "SF_METRICS" = some text →
    override .environment (environment.without "SF_METRICS").lookup config = (rest, .ok ()) →
    override .environment environment.lookup config = (rest, .error e)

/-- **The variable for metrics is read last**, when the others have been read. -/
theorem override_eq_overrideAll_metrics
    (hrest : override .environment (environment.without "SF_METRICS").lookup config =
      (rest, .ok ())) :
    override .environment environment.lookup config =
      overrideAll .environment environment.lookup [.metrics] rest := by
  have hall : Setting.all = Setting.all.dropLast ++ [.metrics] := rfl
  have hothers : ∀ setting ∈ Setting.all.dropLast,
      (environment.without "SF_METRICS").lookup setting = environment.lookup setting := by
    intro setting hsetting
    refine if_neg ?_
    revert hsetting
    cases setting <;> decide
  rw [override, hall, overrideAll_append, overrideAll_congr hothers] at hrest
  rw [override, hall, overrideAll_append]
  rcases hpass : overrideAll .environment environment.lookup Setting.all.dropLast config with
    ⟨left, e | _⟩
  · rw [hpass] at hrest
    cases congrArg Prod.snd hrest
  · rw [hpass] at hrest
    -- without its variable nothing is left to be read
    have hnone : ∀ setting ∈ [Setting.metrics],
        (environment.without "SF_METRICS").lookup setting = none := by
      simp [Environment.lookup, Environment.without, Setting.variableName]
    have hleft : left = rest := by
      simpa only [overrideAll_of_none _ hnone, Prod.mk.injEq, and_true] using hrest
    rw [hleft]

/-- A text that says on or off sets metrics. -/
theorem setsMetrics_of_readFlag? (h : readFlag? text = some enabled) :
    SetsMetrics text enabled := by
  intro environment config rest htext hrest
  have hlookup : environment.lookup .metrics = some text := htext
  rw [override_eq_overrideAll_metrics hrest, overrideAll, hlookup]
  simp only [Source.read, h, overrideAll]

/-- Any other text is refused. -/
theorem refusesMetrics_of_readFlag? (h : readFlag? text = none) :
    RefusesMetrics text (.config (.flag "SF_METRICS" text)) := by
  intro environment config rest htext hrest
  have hlookup : environment.lookup .metrics = some text := htext
  rw [override_eq_overrideAll_metrics hrest, overrideAll, hlookup]
  simp only [Source.read, h, Setting.variableName]

/-- There are settings and variables with any text in this variable, and with no error in the
    others. -/
theorem exists_override_without (text : String) :
    ∃ (environment : Environment) (config rest : Config), environment "SF_METRICS" = some text ∧
      override .environment (environment.without "SF_METRICS").lookup config = (rest, .ok ()) := by
  refine ⟨fun name => if name = "SF_METRICS" then some text else none, {}, {}, if_pos rfl, ?_⟩
  apply overrideAll_of_none
  intro setting _
  simp only [Environment.lookup, Environment.without]
  split <;> rfl

theorem setsMetrics_iff :
    SetsMetrics text enabled ↔ Text.normalize text ∈ metricsWords enabled := by
  rw [← readFlag?_eq_some_iff]
  refine ⟨fun h => ?_, setsMetrics_of_readFlag?⟩
  obtain ⟨environment, config, rest, htext, hrest⟩ := exists_override_without text
  have hset := h environment config rest htext hrest
  cases hread : readFlag? text with
  | none =>
    rw [refusesMetrics_of_readFlag? hread environment config rest htext hrest] at hset
    cases congrArg Prod.snd hset
  | some other =>
    rw [setsMetrics_of_readFlag? hread environment config rest htext hrest] at hset
    exact congrArg (fun result => some result.1.metrics.enabled) hset

theorem refusesMetrics_iff :
    RefusesMetrics text e ↔
      (∀ enabled, ¬ SetsMetrics text enabled) ∧ e = .config (.flag "SF_METRICS" text) := by
  obtain ⟨environment, config, rest, htext, hrest⟩ := exists_override_without text
  constructor
  · intro h
    have herror := h environment config rest htext hrest
    cases hread : readFlag? text with
    | none =>
      have hsame := refusesMetrics_of_readFlag? hread environment config rest htext hrest
      refine ⟨?_, Except.error.inj (congrArg Prod.snd (herror.symm.trans hsame))⟩
      intro enabled hsets
      have hset := hsets environment config rest htext hrest
      cases congrArg Prod.snd (herror.symm.trans hset)
    | some enabled =>
      have hset := setsMetrics_of_readFlag? hread environment config rest htext hrest
      cases congrArg Prod.snd (herror.symm.trans hset)
  · rintro ⟨hnone, rfl⟩
    cases hread : readFlag? text with
    | none => exact refusesMetrics_of_readFlag? hread
    | some enabled => exact absurd (setsMetrics_of_readFlag? hread) (hnone enabled)

/-- **The variable for metrics is read by words**, too. -/
theorem takesWords_metrics :
    TakesWords metricsWords SetsMetrics RefusesMetrics "Config"
      fun text => "Configuration error: Invalid SF_METRICS: " ++ text := by
  refine takesWords_of_normalize ?_ ?_ ?_ (fun _ _ => setsMetrics_iff)
    (fun _ _ => refusesMetrics_iff) (fun _ => rfl) ?_
  · intro enabled
    cases enabled <;> decide
  · intro enabled
    cases enabled <;> decide
  · have hshared : ∀ word ∈ metricsWords true, word ∉ metricsWords false := by decide
    intro a b word ha hb
    cases a <;> cases b
    · rfl
    · exact absurd ha (hshared word hb)
    · exact absurd hb (hshared word ha)
    · rfl
  · intro text
    have hopening : "Configuration error: " ++ ("Invalid " ++ "SF_METRICS" ++ ": ") =
        "Configuration error: Invalid SF_METRICS: " := by
      decide
    show "Configuration error: " ++ ("Invalid " ++ "SF_METRICS" ++ ": " ++ text) = _
    rw [← hopening]
    simp only [String.append_assoc]

end Config

/-! ## Main result -/

/-- **Choices are read by their words**: element types and formats by their names, beside the
    documents that give the same names exactly, and metrics by the words for on and off. Only the
    blanks at the ends and the case of ASCII letters are free. -/
theorem Named.readers_take_words :
    IsNameReader ElementType.ofText "InvalidInput" (fun text =>
      "Invalid input: Unknown element type: " ++ text ++
        ". Valid options: i8, i16, i32, i64, isize, u8, u16, u32, u64, usize") ∧
    IsNameReader OutputFormat.ofText "Config" (fun text =>
      "Configuration error: Invalid output format: " ++ text ++ ". Valid options: text, json") ∧
    IsNameReader LogFormat.ofText "Config" (fun text =>
      "Configuration error: Invalid log format: " ++ text ++
        ". Valid options: pretty, compact, json") ∧
    TakesWords metricsWords Config.SetsMetrics Config.RefusesMetrics "Config" (fun text =>
      "Configuration error: Invalid SF_METRICS: " ++ text) :=
  ⟨ElementType.isNameReader_ofText, OutputFormat.isNameReader_ofText,
    LogFormat.isNameReader_ofText, Config.takesWords_metrics⟩

/-- An ideographic space is a blank; the long s is no letter of ASCII, although its capital is. -/
example :
    ElementType.ofText "\u3000uSIZE\n" = .ok .usize ∧
      ElementType.ofText "u\u017fize" = .error (.invalidInput (.elementType "u\u017fize")) := by
  decide

end Ramp
