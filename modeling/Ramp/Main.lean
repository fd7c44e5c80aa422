import Ramp.Program

/-!
# `Main` — the program itself

## Contents
- Questions to the system: the environment, and the one file that is read.
- `main`: a run of the program, with what it prints.
-/

namespace Ramp.Main

/-- The number of an error that the system reports when a file is read; 5 stands for the others. -/
def errorNumber : IO.Error → Int
  | .noFileOrDirectory _ code _ | .noSuchThing _ code _ | .permissionDenied _ code _
  | .inappropriateType _ code _ | .invalidArgument _ code _ | .resourceExhausted _ code _
  | .illegalOperation code _ | .unsupportedOperation code _ | .otherError code _ =>
    Int.ofNat code.toNat
  | _ => 5

/-- The numbers of the errors that say that there is nothing at a path. -/
def absenceNumbers : List Int := [2, 20, 36]

/-- The variables that the program looks at. -/
def readEnvironment : IO Environment := do
  let values ← Program.variableNames.mapM fun name => do return (name, ← IO.getEnv name)
  return fun name => (values.lookup name).join

/-- The disk as far as the program looks at it: one path. -/
def readDisk (path : String) : IO Disk := do
  match ← (IO.FS.readBinFile path).toBaseIO with
  | .ok bytes =>
    return ⟨fun asked => if asked = path then ReadFailure.textOf bytes else .error .notFound,
      fun asked => asked == path⟩
  | .error e =>
    let number := errorNumber e
    return ⟨fun _ => .error (.host number),
      fun asked => asked == path && !absenceNumbers.contains number⟩

/-- Prints what a run gives, and returns its exit code. -/
def report (outcome : Program.Outcome) : IO UInt32 := do
  for line in outcome.logLines do
    IO.eprintln line
  IO.print outcome.stdout
  for line in outcome.exposition do
    IO.eprintln line
  if let some e := outcome.error then
    IO.eprintln ("Error: " ++ e.detail)
  return UInt32.ofNat outcome.exit

end Ramp.Main

/-- The program. -/
def main (words : List String) : IO UInt32 := do
  let environment ← Ramp.Main.readEnvironment
  let disk ← Ramp.Main.readDisk (Ramp.Program.filePath words)
  Ramp.Main.report (Ramp.Program.run words environment disk)
