import Mathlib.Data.List.Nodup
import Ramp.CommandLine.Parse
import Ramp.Config.Layers

/-!
# `Proofs.Spelling` — saying the same thing in other words

What is said on a command line is a set: for each option one value or none, and for each flag
whether it is there. The words that say it have an order, and each thing that is said can be spelled
in several ways, with a value in a word of its own or in the same word, and with a name or a letter.
A value that looks like an option is still a value where the option before it asks for one.

The words are read from left to right. `Progress.Said` is the invariant: what has been read so far
comes to these arguments, and no option waits for its value. One spelling takes it from these
arguments to the same with one thing more (`parseFrom_spelling`), so any list of spellings does.

## Contents
- `Saying`, and `Arguments.sayings`: the single things that are said, with `Arguments.ext_says`.
- `Saying.Spelling` and `Spelled`: words that say one thing, and words that say several.
- `Word.ofString_long_equal` and its siblings: the shapes of these words.
- `parse_spelled`: every spelling in every order is read as what it says; `exists_spelled`: there
  are such words for every choice.
-/

namespace Ramp.CommandLine

/-! ## Things that are said -/

/-- A single thing that can be said on a command line. -/
inductive Saying where
  | value (option : ValueOption) (text : String)
  | flag (flag : Flag)
  deriving DecidableEq, Repr

namespace Arguments

variable {arguments : Arguments} {saying : Saying}

/-- Whether something is said. -/
def Says (arguments : Arguments) : Saying → Prop
  | .value option text => arguments.value option = some text
  | .flag flag => arguments.isSet flag = true

/-- All that is said. -/
def sayings (arguments : Arguments) : List Saying :=
  (Named.all.filterMap fun option => (arguments.value option).map (.value option)) ++
    (Named.all.filter arguments.isSet).map .flag

/-- Arguments in which the same is said are the same. -/
theorem ext_says {other : Arguments} (h : ∀ saying, arguments.Says saying ↔ other.Says saying) :
    arguments = other := by
  have hvalue : arguments.value = other.value :=
    funext fun option => Option.ext fun text => h (.value option text)
  have hisSet : arguments.isSet = other.isSet :=
    funext fun flag => Bool.eq_iff_iff.mpr (h (.flag flag))
  cases arguments
  cases other
  cases hvalue
  cases hisSet
  rfl

theorem mem_sayings_iff : saying ∈ arguments.sayings ↔ arguments.Says saying := by
  rw [sayings, List.mem_append, List.mem_filterMap, List.mem_map]
  cases saying with
  | value option text => simp [Says, Named.mem_all]
  | flag flag => simp [Says, Named.mem_all]

/-- Nothing is said twice. -/
theorem nodup_sayings (arguments : Arguments) : arguments.sayings.Nodup := by
  rw [sayings, List.nodup_append]
  refine ⟨List.Nodup.filterMap ?_ (by decide), List.Nodup.map ?_ (List.Nodup.filter _ (by decide)),
    ?_⟩
  · intro option other saying hoption hother
    simp only [Option.mem_def, Option.map_eq_some_iff] at hoption hother
    obtain ⟨_, -, rfl⟩ := hoption
    obtain ⟨_, -, hsame⟩ := hother
    cases hsame
    rfl
  · intro flag other hsame
    cases hsame
    rfl
  · rintro saying hvalue other hflag rfl
    simp only [List.mem_filterMap, List.mem_map, Option.map_eq_some_iff] at hvalue hflag
    obtain ⟨_, -, _, -, rfl⟩ := hvalue
    obtain ⟨_, -, hsame⟩ := hflag
    cases hsame

/-- One thing more that is said. -/
def add (arguments : Arguments) : Saying → Arguments
  | .value option text => arguments.withValue option text
  | .flag flag => arguments.withFlag flag

/-- Whether nothing has been said yet that something would say again: its option has no value, or
    its flag is not set. -/
def Leaves (arguments : Arguments) : Saying → Prop
  | .value option _ => arguments.value option = none
  | .flag flag => arguments.isSet flag = false

/-- Whatever is left open and then said is said besides what was said before. -/
theorem says_add_iff {new : Saying} (h : arguments.Leaves new) :
    (arguments.add new).Says saying ↔ saying = new ∨ arguments.Says saying := by
  cases new with
  | value option text =>
    cases saying with
    | flag flag => simp [add, Says]
    | value other text' =>
      by_cases hsame : other = option
      · subst hsame
        have hnone : arguments.value other = none := h
        simp [add, Says, hnone, eq_comm]
      · simp [add, Says, value_withValue_of_ne hsame, hsame]
  | flag flag =>
    cases saying with
    | value option text => simp [add, Says]
    | flag other =>
      by_cases hsame : other = flag
      · subst hsame
        simp [add, Says]
      · simp [add, Says, isSet_withFlag_of_ne hsame, hsame]

end Arguments

/-! ## Words for them -/

/-- Whether the word behind an option is taken as its value: any word, or one that does not look
    like an option. -/
def ValueOption.TakesWord (option : ValueOption) (text : String) : Prop :=
  option.takesHyphens = true ∨ text = "-" ∨ text.toList.head? ≠ some '-'

/-- **The spellings of one thing**, as words. -/
inductive Saying.Spelling : Saying → List String → Prop where
  /-- `--option=text` -/
  | longEqual (option : ValueOption) (text : String) :
      Spelling (.value option text) ["--" ++ Named.name option ++ "=" ++ text]
  /-- `--option text` -/
  | longWord {option : ValueOption} {text : String} (h : option.TakesWord text) :
      Spelling (.value option text) ["--" ++ Named.name option, text]
  /-- `-o text` -/
  | shortWord {option : ValueOption} {text : String} {letter : Char}
      (hletter : option.letter? = some letter) (h : option.TakesWord text) :
      Spelling (.value option text) ["-" ++ letter.toString, text]
  /-- `-o=text` -/
  | shortEqual {option : ValueOption} {letter : Char} (hletter : option.letter? = some letter)
      (text : String) :
      Spelling (.value option text) ["-" ++ letter.toString ++ "=" ++ text]
  /-- `-otext` -/
  | shortAttached {option : ValueOption} {text : String} {letter : Char}
      (hletter : option.letter? = some letter) (hne : text ≠ "")
      (hequal : text.toList.head? ≠ some '=') :
      Spelling (.value option text) ["-" ++ letter.toString ++ text]
  /-- `--flag` -/
  | flag (flag : Flag) : Spelling (.flag flag) ["--" ++ Named.name flag]

/-- **Words that say these things**, in this order, each in one of its spellings. -/
inductive Spelled : List Saying → List String → Prop where
  | nil : Spelled [] []
  | cons {saying : Saying} {sayings : List Saying} {first words : List String}
      (hfirst : saying.Spelling first) (hrest : Spelled sayings words) :
      Spelled (saying :: sayings) (first ++ words)

/-! ### The shapes of words -/

namespace Word

/-- Whether a text can be a name in a word: there is some text, and no equals sign in it. -/
def IsName (name : String) : Prop :=
  name ≠ "" ∧ ∀ c ∈ name.toList, (c != '=') = true

/-- Behind two hyphens stands a name, up to the first equals sign, and behind that a value. -/
theorem ofString_of_toList {s : String} {rest : List Char} (hchars : s.toList = '-' :: '-' :: rest)
    (hne : rest ≠ []) :
    ofString s = .long (String.ofList (rest.takeWhile (· != '=')))
      ((rest.dropWhile (· != '=')).tail?.map String.ofList) := by
  cases rest with
  | nil => exact absurd rfl hne
  | cons c others =>
    cases hdrop : (c :: others).dropWhile (· != '=') with
    | nil =>
      simp only [ofString, hchars, hdrop]
      rfl
    | cons equal value =>
      simp only [ofString, hchars, hdrop]
      rfl

theorem ofString_long_equal {name : String} (h : IsName name) (text : String) :
    ofString ("--" ++ name ++ "=" ++ text) = .long name (some text) := by
  have hchars : ("--" ++ name ++ "=" ++ text).toList =
      '-' :: '-' :: (name.toList ++ '=' :: text.toList) := by simp
  rw [ofString_of_toList hchars (by simp), List.takeWhile_append_of_pos h.2,
    List.dropWhile_append_of_pos h.2]
  simp

theorem ofString_long {name : String} (h : IsName name) :
    ofString ("--" ++ name) = .long name none := by
  have hchars : ("--" ++ name).toList = '-' :: '-' :: (name.toList ++ []) := by simp
  rw [ofString_of_toList hchars (by simpa using h.1), List.takeWhile_append_of_pos h.2,
    List.dropWhile_append_of_pos h.2]
  simp

theorem ofString_short {letter : Char} (hletter : letter ≠ '-') (rest : String) :
    ofString ("-" ++ letter.toString ++ rest) = .short letter rest.toList := by
  have hchars : ("-" ++ letter.toString ++ rest).toList = '-' :: letter :: rest.toList := by simp
  unfold ofString
  rw [hchars]
  simp [hletter]

/-- A hyphen alone, or no hyphen in front: this does not look like an option. -/
theorem ofString_eq_plain {text : String} (h : text = "-" ∨ text.toList.head? ≠ some '-') :
    ofString text = .plain := by
  rcases h with rfl | h
  · rfl
  · unfold ofString
    cases hlist : text.toList with
    | nil => rfl
    | cons c rest =>
      rw [hlist] at h
      have hc : c ≠ '-' := by simpa using h
      simp [hc]

end Word

/-! ## Reading -/

theorem isName_name (option : ValueOption) : Word.IsName (Named.name option) := by
  rw [Word.IsName, ← List.all_eq_true]
  cases option <;> exact ⟨by decide, rfl⟩

theorem isName_flag_name (flag : Flag) : Word.IsName (Named.name flag) := by
  rw [Word.IsName, ← List.all_eq_true]
  cases flag <;> exact ⟨by decide, rfl⟩

theorem letter_ne_hyphen {option : ValueOption} {letter : Char}
    (h : option.letter? = some letter) : letter ≠ '-' := by
  cases option <;> cases h <;> decide

section Reading

variable {said : Arguments} {progress next : Progress} {option : ValueOption} {text word : String}
  {words : List String} {saying : Saying} {sayings : List Saying}

namespace Progress

/-- **What has been read comes to these arguments**, and no option waits for its value. -/
structure Said (said : Arguments) (progress : Progress) : Prop where
  settle : progress.settle = .ok ⟨said, none⟩
  awaiting : progress.awaiting = none

/-- With nothing pending, what has been read is what is said. -/
theorem said_mk (said : Arguments) : Said said ⟨said, none⟩ :=
  ⟨rfl, rfl⟩

theorem store_of_none (hnone : said.value option = none) (text : String) :
    store option text ⟨said, none⟩ = .ok ⟨said.withValue option text, none⟩ := by
  rw [store, hnone]
  rfl

/-- A value that has come counts for its option, unless that had one. -/
theorem said_pending (hnone : said.value option = none) (text : String) :
    Said (said.withValue option text) ⟨said, some (option, some text)⟩ where
  settle := store_of_none hnone text
  awaiting := rfl

theorem takes_of_said (h : Said said progress) (word : String) : progress.takes word = false := by
  rw [takes, h.awaiting]
  rfl

theorem takes_of_takesWord (h : option.TakesWord text) :
    takes ⟨said, some (option, none)⟩ text = true := by
  show (option.takesHyphens || Word.ofString text == .plain) = true
  rcases h with h | h
  · rw [h, Bool.true_or]
  · rw [Word.ofString_eq_plain h, beq_self_eq_true, Bool.or_true]

theorem give_of_said (h : Said said progress) (hnone : said.value option = none) (text : String) :
    progress.give option text = .ok ⟨said.withValue option text, none⟩ := by
  rw [give, h.settle]
  exact store_of_none hnone text

theorem await_of_said (h : Said said progress) (option : ValueOption) :
    progress.await option = .ok ⟨said, some (option, none)⟩ := by
  rw [await, h.settle]
  rfl

end Progress

open Progress

theorem parseFrom_long {name : String} {value : Option String} (h : Said said progress)
    (hword : Word.ofString word = .long name value) (hnext : progress.long name value = .ok next)
    (rest : List String) : parseFrom progress (word :: rest) = parseFrom next rest := by
  rw [parseFrom, takes_of_said h, hword]
  simp only [Bool.false_eq_true, if_false, hnext]
  rfl

theorem parseFrom_short {letter : Char} {tail : List Char} (h : Said said progress)
    (hword : Word.ofString word = .short letter tail)
    (hnext : progress.short letter tail = .ok next) (rest : List String) :
    parseFrom progress (word :: rest) = parseFrom next rest := by
  rw [parseFrom, takes_of_said h, hword]
  simp only [Bool.false_eq_true, if_false, hnext]
  rfl

/-- The word behind an option that waits is its value. -/
theorem parseFrom_waiting (h : option.TakesWord text) (rest : List String) :
    parseFrom ⟨said, some (option, none)⟩ (text :: rest) =
      parseFrom ⟨said, some (option, some text)⟩ rest := by
  rw [parseFrom, takes_of_takesWord h, if_pos rfl]
  rfl

/-- **One spelling of one thing more**, whatever words follow. -/
theorem parseFrom_spelling (h : Said said progress) (hspelling : saying.Spelling words)
    (hleaves : said.Leaves saying) :
    ∃ next, Said (said.add saying) next ∧
      ∀ rest, parseFrom progress (words ++ rest) = parseFrom next rest := by
  cases hspelling with
  | longEqual option text =>
    have hnext : progress.long (Named.name option) (some text) =
        .ok ⟨said.withValue option text, none⟩ := by
      unfold Progress.long
      rw [Switch.ofLong?_name]
      exact give_of_said h hleaves text
    exact ⟨_, said_mk _,
      parseFrom_long h (Word.ofString_long_equal (isName_name option) text) hnext⟩
  | @longWord option text htakes =>
    have hnext : progress.long (Named.name option) none = .ok ⟨said, some (option, none)⟩ := by
      unfold Progress.long
      rw [Switch.ofLong?_name]
      exact await_of_said h option
    -- the value is stored when the option is settled, and until then it waits with its option
    have hword := Word.ofString_long (isName_name option)
    refine ⟨_, said_pending hleaves text, fun rest => ?_⟩
    exact (parseFrom_long h hword hnext _).trans (parseFrom_waiting htakes rest)
  | @shortWord option text letter hletter htakes =>
    have hnext : progress.short letter [] = .ok ⟨said, some (option, none)⟩ := by
      rw [Progress.short, Switch.ofLetter?_eq_of_letter? hletter]
      exact await_of_said h option
    have hword : Word.ofString ("-" ++ letter.toString) = .short letter [] := by
      simpa using Word.ofString_short (letter_ne_hyphen hletter) ""
    refine ⟨_, said_pending hleaves text, fun rest => ?_⟩
    exact (parseFrom_short h hword hnext _).trans (parseFrom_waiting htakes rest)
  | @shortEqual option letter hletter text =>
    have hnext : progress.short letter ('=' :: text.toList) =
        .ok ⟨said.withValue option text, none⟩ := by
      rw [Progress.short, Switch.ofLetter?_eq_of_letter? hletter]
      -- the equals sign in front is no part of the value
      show progress.give option (String.ofList text.toList) = _
      rw [String.ofList_toList]
      exact give_of_said h hleaves text
    have hword : Word.ofString ("-" ++ letter.toString ++ "=" ++ text) =
        .short letter ('=' :: text.toList) := by
      rw [String.append_assoc]
      simpa using Word.ofString_short (letter_ne_hyphen hletter) ("=" ++ text)
    exact ⟨_, said_mk _, parseFrom_short h hword hnext⟩
  | @shortAttached option text letter hletter hne hequal =>
    have hnext : progress.short letter text.toList = .ok ⟨said.withValue option text, none⟩ := by
      have hrest : text.toList.isEmpty = false := by simpa using hne
      have hattached : attached text.toList = text := by
        unfold attached
        -- an equals sign in front would be dropped, but there is none
        split
        · next heq => simp [heq] at hequal
        · exact String.ofList_toList
      rw [Progress.short, Switch.ofLetter?_eq_of_letter? hletter]
      simp only [hrest, Bool.false_eq_true, if_false, hattached]
      exact give_of_said h hleaves text
    exact ⟨_, said_mk _,
      parseFrom_short h (Word.ofString_short (letter_ne_hyphen hletter) text) hnext⟩
  | flag flag =>
    have hnext : progress.long (Named.name flag) none = .ok ⟨said.withFlag flag, none⟩ := by
      have hset : said.isSet flag = false := hleaves
      unfold Progress.long
      rw [Switch.ofLong?_flag_name]
      simp only [turn, h.settle, bind, Except.bind, hset, Bool.false_eq_true, if_false]
      rfl
    have hword := Word.ofString_long (isName_flag_name flag)
    exact ⟨_, said_mk _, parseFrom_long h hword hnext⟩

/-- Whatever is still to be said is left open by what has been said so far. -/
theorem leaves_of_says {chosen : Arguments} (hnew : ¬ said.Says saying)
    (hsaying : chosen.Says saying) (hsaid : ∀ other, said.Says other → chosen.Says other) :
    said.Leaves saying := by
  cases saying with
  | value option text =>
    cases hvalue : said.value option with
    | none => exact hvalue
    | some text' =>
      -- an option has one value only
      have hsame : some text = some text' := hsaying.symm.trans (hsaid (.value option text') hvalue)
      exact absurd (hvalue.trans hsame.symm) hnew
  | flag flag => exact Bool.eq_false_iff.mpr hnew

/-- **Spellings of all that is left to say**: once they are read, everything is said. -/
theorem parseFrom_spelled {chosen : Arguments} (hspelled : Spelled sayings words)
    (h : Said said progress) (hnodup : sayings.Nodup)
    (hnew : ∀ saying ∈ sayings, ¬ said.Says saying)
    (hchosen : ∀ saying, chosen.Says saying ↔ said.Says saying ∨ saying ∈ sayings) :
    parseFrom progress words = .ok chosen := by
  induction hspelled generalizing said progress with
  | nil =>
    have hsame : chosen = said := Arguments.ext_says fun saying => by simpa using hchosen saying
    rw [parseFrom, h.settle, hsame]
    rfl
  | @cons saying sayings first words hfirst _ ih =>
    have hleaves : said.Leaves saying := leaves_of_says (hnew saying (by simp))
      ((hchosen saying).mpr (.inr (by simp))) fun other hother => (hchosen other).mpr (.inl hother)
    obtain ⟨next, hnext, hparse⟩ := parseFrom_spelling h hfirst hleaves
    rw [hparse words]
    -- what is said so far and what is left to say are still apart, and together what is chosen
    obtain ⟨hfresh, hrest⟩ := List.nodup_cons.mp hnodup
    refine ih hnext hrest ?_ ?_
    · intro other hother hsaying
      rcases (Arguments.says_add_iff hleaves).mp hsaying with rfl | hsaying
      · exact hfresh hother
      · exact hnew other (by simp [hother]) hsaying
    · intro other
      rw [hchosen, Arguments.says_add_iff hleaves, List.mem_cons, or_left_comm, or_assoc]

end Reading

/-! ## Main result -/

/-- Everything can be spelled, in every order. -/
theorem exists_spelled (sayings : List Saying) : ∃ words, Spelled sayings words := by
  induction sayings with
  | nil => exact ⟨[], .nil⟩
  | cons saying rest ih =>
    obtain ⟨words, hwords⟩ := ih
    cases saying with
    | value option text => exact ⟨_, .cons (.longEqual option text) hwords⟩
    | flag flag => exact ⟨_, .cons (.flag flag) hwords⟩

/-- The settings that the words of a command line lead to, or why they cannot be read. -/
def loadWords (disk : Disk) (default : String) (environment : Environment) (words : List String) :
    Except Stop (Except Error Config) :=
  (parse words).map fun arguments =>
    Config.load disk (arguments.value .config) default environment.lookup arguments.lookup

/-- **Words that say all that is chosen are read as just that**, whatever is chosen, in whatever
    order it is said and however each thing is spelled. So all of them lead to the same settings, or
    to the same error. -/
theorem parse_spelled {chosen : Arguments} {sayings : List Saying} {words : List String}
    (horder : sayings.Perm chosen.sayings) (hspelled : Spelled sayings words) :
    parse words = .ok chosen ∧
      ∀ sayings' words', sayings'.Perm chosen.sayings → Spelled sayings' words' →
        ∀ disk default environment,
          loadWords disk default environment words' = loadWords disk default environment words := by
  have hparse : ∀ sayings words, sayings.Perm chosen.sayings → Spelled sayings words →
      parse words = .ok chosen := by
    intro sayings words horder hspelled
    refine parseFrom_spelled hspelled (Progress.said_mk .empty)
      (horder.nodup_iff.mpr chosen.nodup_sayings) ?_ ?_
    · rintro (⟨option, text⟩ | flag) - hsaying <;> cases hsaying
    · intro saying
      rw [horder.mem_iff, Arguments.mem_sayings_iff, or_iff_right]
      cases saying <;> rintro ⟨⟩
  refine ⟨hparse sayings words horder hspelled, ?_⟩
  intro sayings' words' horder' hspelled' disk default environment
  rw [loadWords, loadWords, hparse _ _ horder hspelled, hparse _ _ horder' hspelled']

/-- Arguments with values that look like something else. -/
def awkwardArguments : Arguments :=
  ((((((Arguments.empty.withValue .config "a=b").withValue .length "7").withValue .start
    "--four").withValue .elementType "i16").withValue .separator "--").withValue .logLevel
    "").withFlag .metrics

/-- The values are read as they were meant, and no flag is set that was not. -/
theorem parse_spelled_awkward :
    parse ["--start", "--four", "-ti16", "--metrics", "--separator", "--", "-n=7", "--log-level=",
      "-c", "a=b"] = .ok awkwardArguments := by
  have horder : List.Perm
      [.value .start "--four", .value .elementType "i16", .flag .metrics, .value .separator "--",
        .value .length "7", .value .logLevel "", .value .config "a=b"]
      awkwardArguments.sayings := by
    decide
  have hspelled : Spelled
      [.value .start "--four", .value .elementType "i16", .flag .metrics, .value .separator "--",
        .value .length "7", .value .logLevel "", .value .config "a=b"] _ :=
    .cons (.longWord (.inl rfl)) <| .cons (.shortAttached rfl (by decide) (by decide)) <|
      .cons (.flag .metrics) <| .cons (.longWord (.inl rfl)) <| .cons (.shortEqual rfl "7") <|
      .cons (.longEqual .logLevel "") <| .cons (.shortWord rfl (.inr (.inr (by decide)))) .nil
  exact (parse_spelled horder hspelled).1

end Ramp.CommandLine
