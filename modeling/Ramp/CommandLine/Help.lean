import Ramp.CommandLine.Parse
import Ramp.Log.Level
import Ramp.Release

/-!
# `CommandLine.Help` — what the program says about itself

## Contents
- `helpText`, built from a line for each switch; `versionText`.
- `Stop.exitCode` and `Stop.output`: how the program ends when reading the command line ends early.
-/

namespace Ramp.CommandLine

/-- What the value of an option is called. -/
def ValueOption.valueName : ValueOption → String
  | .config => "FILE"
  | .length => "N"
  | .start => "S"
  | .elementType => "TYPE"
  | .format | .logFormat => "FORMAT"
  | .separator => "SEP"
  | .logLevel => "LEVEL"

/-- The members of a finite type in brackets. -/
def listing (α : Type) [Named α] : String :=
  "(" ++ String.intercalate ", " (Named.names α) ++ ")"

/-- What an option is for. -/
def ValueOption.purpose : ValueOption → String
  | .config => "Configuration file path"
  | .length => "Number of elements to generate"
  | .start => "Value of the first element"
  | .elementType => "Element type " ++ listing ElementType
  | .format => "Output format " ++ listing OutputFormat
  | .separator => "Separator between values in text output"
  | .logLevel => "Log level " ++ listing Log.Level
  | .logFormat => "Log format " ++ listing LogFormat

/-- What a flag is for. -/
def Flag.purpose : Flag → String
  | .four => "Print the constant 4 and exit"
  | .metrics => "Print Prometheus metrics to stderr after the run"

/-- The line for one switch: its letter, its name with that of its value, and what it is for. -/
structure HelpLine where
  letter? : Option Char
  spelling : String
  purpose : String

/-- The lines for all switches. -/
def helpLines : List HelpLine :=
  (Named.all.map fun option : ValueOption =>
    ⟨option.letter?, "--" ++ Named.name option ++ " <" ++ option.valueName ++ ">",
      option.purpose⟩) ++
  (Named.all.map fun flag : Flag => ⟨none, "--" ++ Named.name flag, flag.purpose⟩) ++
  [⟨some 'h', "--help", "Print help"⟩, ⟨some 'V', "--version", "Print version"⟩]

/-- A line with what it says about purposes beginning in column `width`. -/
def HelpLine.render (width : Nat) (line : HelpLine) : String :=
  let letter := match line.letter? with
    | some letter => "-" ++ String.singleton letter ++ ", "
    | none => "    "
  let padding := String.ofList (List.replicate (width - line.spelling.length) ' ')
  "  " ++ letter ++ line.spelling ++ padding ++ "  " ++ line.purpose ++ "\n"

/-- The answer to a request for help. -/
def helpText : String :=
  let width := (helpLines.map fun line => line.spelling.length).foldl max 0
  "Print integer sequences filled with their indices.\n\n" ++
    "Usage: " ++ programName ++ " [OPTIONS]\n\nOptions:\n" ++
    String.join (helpLines.map (HelpLine.render width))

/-- The answer to a request for the version. -/
def versionText : String :=
  banner ++ "\n"

namespace Stop

/-- The exit code of a program that stops. -/
def exitCode : Stop → Nat
  | .help | .version => 0
  | .unknownArgument | .missingValue | .repeated | .unexpectedValue => 2

/-- What a program that stops prints. Complaints go elsewhere. -/
def output : Stop → String
  | .help => helpText
  | .version => versionText
  | .unknownArgument | .missingValue | .repeated | .unexpectedValue => ""

end Stop

end Ramp.CommandLine
