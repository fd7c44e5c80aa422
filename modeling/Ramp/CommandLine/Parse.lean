import Ramp.CommandLine.Basic

/-!
# `CommandLine.Parse` — reading the words of a command line

Words are read from left to right, and the first thing that ends the reading wins. An option whose
value is a word of its own waits for that word; whether it was given before is checked only when
the next option comes or the words end.

## Contents
- `Stop`: what ends the reading.
- `Word`: a word by its shape.
- `Progress`: what has been read, and the option that waits.
- `parse`: the arguments that a list of words gives.
-/

namespace Ramp.CommandLine

/-- Why reading a command line ends without arguments. -/
inductive Stop where
  /-- The user asks for help. -/
  | help
  /-- The user asks for the version. -/
  | version
  /-- A word that is no option and no value. -/
  | unknownArgument
  /-- An option without its value. -/
  | missingValue
  /-- An option or a flag given twice. -/
  | repeated
  /-- A value for something that takes none. -/
  | unexpectedValue
  deriving DecidableEq, Repr

/-- A word by its shape. -/
inductive Word where
  /-- Two hyphens alone. -/
  | terminator
  /-- Two hyphens and a name, with a value if an equals sign follows. -/
  | long (name : String) (value : Option String)
  /-- One hyphen and a letter, with what follows it. -/
  | short (letter : Char) (rest : List Char)
  /-- Anything else, such as a hyphen alone. -/
  | plain
  deriving DecidableEq, Repr

/-- The shape of a word. -/
def Word.ofString (s : String) : Word :=
  match s.toList with
  | ['-', '-'] => .terminator
  | '-' :: '-' :: rest =>
    let name := String.ofList (rest.takeWhile (· != '='))
    match rest.dropWhile (· != '=') with
    | [] => .long name none
    | _ :: value => .long name (some (String.ofList value))
  | '-' :: letter :: rest => .short letter rest
  | _ => .plain

/-- What has been read of a command line. -/
structure Progress where
  arguments : Arguments
  /-- The latest option, if its value is a word of its own, and that word once it has come. -/
  pending : Option (ValueOption × Option String)

namespace Progress

/-- Nothing has been read. -/
def initial : Progress :=
  ⟨.empty, none⟩

/-- The option whose value has not come yet. -/
def awaiting (progress : Progress) : Option ValueOption :=
  match progress.pending with
  | some (option, none) => some option
  | _ => none

/-- Gives an option a value, unless it has one. -/
def store (option : ValueOption) (value : String) (progress : Progress) : Except Stop Progress :=
  if (progress.arguments.value option).isSome then .error .repeated
  else .ok ⟨progress.arguments.withValue option value, none⟩

/-- Settles the option that waits: its value must have come, and no other one before. -/
def settle (progress : Progress) : Except Stop Progress :=
  match progress.pending with
  | none => .ok progress
  | some (_, none) => .error .missingValue
  | some (option, some value) => progress.store option value

/-- An option with its value in the same word. -/
def give (option : ValueOption) (value : String) (progress : Progress) : Except Stop Progress := do
  (← progress.settle).store option value

/-- An option whose value is the next word. -/
def await (option : ValueOption) (progress : Progress) : Except Stop Progress := do
  return { ← progress.settle with pending := some (option, none) }

/-- A switch that takes no value. -/
def turn (switch : Switch) (progress : Progress) : Except Stop Progress :=
  match switch with
  | .value option => progress.await option
  | .flag flag => do
    let progress ← progress.settle
    if progress.arguments.isSet flag then throw .repeated
    else return { progress with arguments := progress.arguments.withFlag flag }
  | .help => do
    discard progress.settle
    throw .help
  | .version => do
    discard progress.settle
    throw .version

/-- A word behind two hyphens. -/
def long (name : String) (value : Option String) (progress : Progress) : Except Stop Progress :=
  match Switch.ofLong? name, value with
  | none, _ => .error .unknownArgument
  | some (.value option), some value => progress.give option value
  | some _, some _ => .error .unexpectedValue
  | some switch, none => progress.turn switch

/-- What stands behind the letter of an option is its value, without an equals sign in front. -/
def attached : List Char → String
  | '=' :: value => String.ofList value
  | value => String.ofList value

/-- A word behind one hyphen. -/
def short (letter : Char) (rest : List Char) (progress : Progress) : Except Stop Progress :=
  match Switch.ofLetter? letter with
  | none => .error .unknownArgument
  | some (.value option) =>
    if rest.isEmpty then progress.await option else progress.give option (attached rest)
  | some switch => progress.turn switch

/-- Whether a word is the value of the option that waits. -/
def takes (progress : Progress) (word : String) : Bool :=
  progress.awaiting.any fun option => option.takesHyphens || Word.ofString word == .plain

/-- Hands a word to the option that waits. -/
def supply (word : String) (progress : Progress) : Progress :=
  { progress with pending := progress.awaiting.map fun option => (option, some word) }

end Progress

/-- Reads the remaining words. -/
def parseFrom (progress : Progress) : List String → Except Stop Arguments
  | [] => do return (← progress.settle).arguments
  | word :: rest =>
    if progress.takes word then parseFrom (progress.supply word) rest
    else
      match Word.ofString word with
      | .plain => .error .unknownArgument
      | .terminator =>
        if rest.isEmpty then do return (← progress.settle).arguments
        else .error .unknownArgument
      | .long name value => do parseFrom (← progress.long name value) rest
      | .short letter tail => do parseFrom (← progress.short letter tail) rest

/-- The arguments that the words of a command line give. -/
def parse (words : List String) : Except Stop Arguments :=
  parseFrom .initial words

end Ramp.CommandLine
