import Ramp.Disk.HostError

/-!
# `Disk.Basic` — reading texts from a disk

Only two questions are put to a disk: what text does a path hold, and is there anything at a path.

## Contents
- `ReadFailure` with its wording: why a path gives no text.
- `Disk`, and the disk `empty` on which there is nothing.
-/

namespace Ramp

/-- Why no text can be read from a path. -/
inductive ReadFailure where
  /-- The system refuses, by its error number. -/
  | host (code : Int)
  /-- The bytes are no UTF-8. -/
  | notText
  /-- The path holds a NUL character. -/
  | nulInPath
  deriving DecidableEq, Repr

namespace ReadFailure

/-- There is nothing at the path. -/
def notFound : ReadFailure := .host 2

/-- Something on the way is not a directory. -/
def notDirectory : ReadFailure := .host 20

/-- A directory holds no text. -/
def isDirectory : ReadFailure := .host 21

/-- A name on the way, or the whole path, is too long. -/
def nameTooLong : ReadFailure := .host 36

/-- The wording of a failure. -/
def message : ReadFailure → String
  | .host code => hostErrorMessage code
  | .notText => "stream did not contain valid UTF-8"
  | .nulInPath => "file name contained an unexpected NUL byte"

end ReadFailure

/-- The text that bytes are, if they are UTF-8. -/
def ReadFailure.textOf (bytes : ByteArray) : Except ReadFailure String :=
  match String.fromUTF8? bytes with
  | some text => .ok text
  | none => .error .notText

/-- What can be asked about the files that a program finds. -/
structure Disk where
  /-- The text at a path. -/
  read : String → Except ReadFailure String
  /-- Whether there is anything at a path. -/
  has : String → Bool

/-- The disk on which there is nothing. -/
def Disk.empty : Disk :=
  ⟨fun _ => .error .notFound, fun _ => false⟩

end Ramp
