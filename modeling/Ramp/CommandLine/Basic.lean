import Ramp.Config.Override

/-!
# `CommandLine.Basic` — what can be said on the command line

Eight options take a value and two are flags. Each may be given once.

## Contents
- `ValueOption` with its names, and `Flag`.
- `Switch`: everything that starts with a hyphen, with `Switch.ofLong?` and `Switch.ofLetter?`.
- `Arguments`: what was said, with the views `value` and `isSet` and the two ways to add to it,
  `withValue` and `withFlag`.
- `Arguments.lookup`: the texts that the arguments give for settings.
-/

namespace Ramp.CommandLine

/-- An option that takes a value. -/
inductive ValueOption where
  | config
  | length
  | start
  | elementType
  | format
  | separator
  | logLevel
  | logFormat
  deriving DecidableEq, Repr

instance : Named ValueOption where
  all := [.config, .length, .start, .elementType, .format, .separator, .logLevel, .logFormat]
  name
    | .config => "config"
    | .length => "length"
    | .start => "start"
    | .elementType => "type"
    | .format => "format"
    | .separator => "separator"
    | .logLevel => "log-level"
    | .logFormat => "log-format"
  mem_all a := by cases a <;> decide
  name_inj a b h := by revert h; cases a <;> cases b <;> decide
  normalize_name a := by cases a <;> rfl

namespace ValueOption

/-- The letter that stands for an option, if there is one. -/
def letter? : ValueOption → Option Char
  | .config => some 'c'
  | .length => some 'n'
  | .start => some 's'
  | .elementType => some 't'
  | .format => some 'f'
  | .separator | .logLevel | .logFormat => none

/-- Whether the word after an option is its value even if it starts with a hyphen. -/
def takesHyphens : ValueOption → Bool
  | .start | .separator => true
  | .config | .length | .elementType | .format | .logLevel | .logFormat => false

end ValueOption

/-- An option that is given or not. -/
inductive Flag where
  /-- Print the constant and do nothing else. -/
  | four
  /-- Print the counts after the run. -/
  | metrics
  deriving DecidableEq, Repr

instance : Named Flag where
  all := [.four, .metrics]
  name
    | .four => "four"
    | .metrics => "metrics"
  mem_all a := by cases a <;> decide
  name_inj a b h := by revert h; cases a <;> cases b <;> decide
  normalize_name a := by cases a <;> rfl

/-- What a word that starts with a hyphen can ask for. -/
inductive Switch where
  | value (option : ValueOption)
  | flag (flag : Flag)
  | help
  | version
  deriving DecidableEq, Repr

namespace Switch

/-- The switch behind two hyphens. -/
def ofLong? (name : String) : Option Switch :=
  if name = "help" then some .help
  else if name = "version" then some .version
  else ((Named.ofName? name).map value).or ((Named.ofName? name).map flag)

/-- The switch behind one hyphen. -/
def ofLetter? (letter : Char) : Option Switch :=
  if letter = 'h' then some .help
  else if letter = 'V' then some .version
  else (Named.all.find? fun option => option.letter? == some letter).map value

/-- Every option is found by its name. -/
theorem ofLong?_name (option : ValueOption) :
    ofLong? (Named.name option) = some (.value option) := by
  cases option <;> rfl

/-- Every flag is found by its name. -/
theorem ofLong?_flag_name (f : Flag) : ofLong? (Named.name f) = some (.flag f) := by
  cases f <;> rfl

/-- Every option with a letter is found by it. -/
theorem ofLetter?_eq_of_letter? {option : ValueOption} {letter : Char}
    (h : option.letter? = some letter) : ofLetter? letter = some (.value option) := by
  cases option <;> cases h <;> rfl

end Switch

/-- What was said on the command line. -/
structure Arguments where
  value : ValueOption → Option String
  isSet : Flag → Bool

namespace Arguments

/-- Nothing was said. -/
def empty : Arguments :=
  ⟨fun _ => none, fun _ => false⟩

/-- A value added to what was said. -/
def withValue (option : ValueOption) (value : String) (arguments : Arguments) : Arguments :=
  { arguments with
    value := fun other => if other = option then some value else arguments.value other }

/-- A flag added to what was said. -/
def withFlag (flag : Flag) (arguments : Arguments) : Arguments :=
  { arguments with isSet := fun other => other == flag || arguments.isSet other }

@[simp] theorem value_withValue_self (option : ValueOption) (value : String)
    (arguments : Arguments) : (arguments.withValue option value).value option = some value := by
  simp [withValue]

/-- Giving one option a value leaves the others alone. -/
theorem value_withValue_of_ne {option other : ValueOption} (h : other ≠ option) (value : String)
    (arguments : Arguments) :
    (arguments.withValue option value).value other = arguments.value other := by
  simp [withValue, h]

@[simp] theorem isSet_withValue (option : ValueOption) (value : String) (arguments : Arguments) :
    (arguments.withValue option value).isSet = arguments.isSet := rfl

@[simp] theorem isSet_withFlag_self (flag : Flag) (arguments : Arguments) :
    (arguments.withFlag flag).isSet flag = true := by
  simp [withFlag]

/-- Setting one flag leaves the other one alone. -/
theorem isSet_withFlag_of_ne {flag other : Flag} (h : other ≠ flag) (arguments : Arguments) :
    (arguments.withFlag flag).isSet other = arguments.isSet other := by
  simp [withFlag, h]

@[simp] theorem value_withFlag (flag : Flag) (arguments : Arguments) :
    (arguments.withFlag flag).value = arguments.value := rfl

/-- The texts that arguments give for settings. The flag for metrics turns them on. -/
def lookup (arguments : Arguments) : Lookup
  | .length => arguments.value .length
  | .start => arguments.value .start
  | .elementType => arguments.value .elementType
  | .outputFormat => arguments.value .format
  | .separator => arguments.value .separator
  | .logLevel => arguments.value .logLevel
  | .logFormat => arguments.value .logFormat
  | .metrics => if arguments.isSet .metrics then some "true" else none

end Arguments

end Ramp.CommandLine
