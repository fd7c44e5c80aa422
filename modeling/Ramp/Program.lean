import Ramp.CommandLine.Help
import Ramp.Config.Layers
import Ramp.Log.Layout
import Ramp.Session

/-!
# `Program` — a whole run of the program

A run depends on the words of the command line, the environment and the files, and on nothing else.

## Contents
- `fourText`: the constant as it is printed.
- `Printed`, `Program.work`: what is printed once the settings are known.
- `Program.Outcome`, `Program.runIn` and `Program.run`.
- `Program.variableNames`, `Program.filePath`: what a run looks at.
-/

namespace Ramp

/-- The constant as it is printed, in either format. -/
def fourText : String :=
  four.repr

namespace Program

/-- What is printed by a program that succeeds. -/
structure Printed where
  stdout : String
  /-- The lines for the metrics. -/
  exposition : List String
  deriving DecidableEq, Repr

/-- A written sequence as it is printed. Nothing is printed for an empty one in text. -/
def printedBody (format : OutputFormat) (body : String) : String :=
  if body.isEmpty ∧ format = .text then "" else body ++ "\n"

/-- What is done once the settings are known. -/
def work (environment : Environment) (config : Config) (onlyFour : Bool) (session : Session) :
    Session × Except Failure Printed :=
  match session.prepare environment config with
  | (session, .error why) => (session, .error why)
  | (session, .ok ()) =>
    let session := session.tell none (.effectiveConfig config)
    if onlyFour then (session, .ok ⟨fourText ++ "\n", []⟩)
    else
      match session.run config with
      | (session, .error why) => (session, .error why)
      | (session, .ok output) =>
        let exposition := if config.metrics.enabled then session.ledger.exposition else []
        (session, .ok ⟨printedBody config.output.format output.body, exposition⟩)

/-- How a program ends. -/
structure Outcome where
  exit : Nat
  stdout : String := ""
  /-- The events that got through, and the format in which they are written. -/
  log : List Log.Entry := []
  logFormat : LogFormat := .compact
  exposition : List String := []
  /-- The error that ended the program. -/
  error : Option Error := none
  deriving DecidableEq, Repr

/-- The exit code of a program that reports an error. -/
def errorExit : Nat := 1

/-- The exit code of a program that is aborted, if the stack is unwound then. A program that is
    built to stop at once, as it is for a release, has no exit code in that case. -/
def abortExit : Nat := 101

/-- The variables that a run looks at. -/
def variableNames : List String :=
  Log.Filter.variableName :: Setting.all.map Setting.variableName

/-- The only file that a run looks at. -/
def filePath (words : List String) : String :=
  match CommandLine.parse words with
  | .ok arguments => (arguments.value .config).getD Config.defaultPath
  | .error _ => Config.defaultPath

/-- A whole run in a process, with the settings taken from the default file if no other one is
    named: what the process remembers when the program ends, and how it ends. -/
def runIn (session : Session) (words : List String) (environment : Environment) (disk : Disk) :
    Session × Outcome :=
  match CommandLine.parse words with
  | .error stop => (session, { exit := stop.exitCode, stdout := stop.output })
  | .ok arguments =>
    match Config.load disk (arguments.value .config) Config.defaultPath environment.lookup
        arguments.lookup with
    | .error e => (session, { exit := errorExit, error := some e })
    | .ok config =>
      let (session, result) := work environment config (arguments.isSet .four) session
      let outcome : Outcome := { exit := 0, log := session.log, logFormat := config.logging.format }
      match result with
      | .ok printed =>
        (session, { outcome with stdout := printed.stdout, exposition := printed.exposition })
      | .error (.error e) => (session, { outcome with exit := errorExit, error := some e })
      | .error (.abort _) => (session, { outcome with exit := abortExit })

/-- A whole run, which has a process of its own. -/
def run (words : List String) (environment : Environment) (disk : Disk) : Outcome :=
  (runIn {} words environment disk).2

/-- The lines for the events. -/
def Outcome.logLines (outcome : Outcome) : List String :=
  outcome.log.map fun entry => entry.line outcome.logFormat

end Program

end Ramp
