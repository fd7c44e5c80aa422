import Ramp.Failure
import Ramp.Json.Print

/-!
# `Sequence` — sequences of one element type

A sequence is generated from a type, a first value and a length. Three things can stand in the way,
in this order: the first value is none of the type, the sequence needs more bytes than any memory
can hold, or its last value is none of the type. A sequence that is there may still be too long to
be written as text: how many bytes the text takes is known before anything of it is put together.

## Contents
- `Sequence` with `length` and `isEmpty`.
- `Sequence.Refusal`, with the failure it amounts to; `Sequence.ofStart`, `Sequence.generate` and
  `Sequence.ofSettings`.
- `Sequence.join`: texts with a separator between them, if there is room for them.
- `Sequence.body`: the sequence as text or as JSON; `Sequence.render`: the same, if there is room.
-/

namespace Ramp

open ElementType

/-- Values of one element type. -/
structure Sequence where
  elementType : ElementType
  values : Buffer elementType
  deriving DecidableEq, Repr

namespace Sequence

/-- The number of values. -/
def length (s : Sequence) : Nat :=
  s.values.length

/-- Whether there are no values. -/
def isEmpty (s : Sequence) : Bool :=
  s.length == 0

/-- Why a sequence cannot be generated. -/
inductive Refusal where
  /-- The first value is no value of the type. -/
  | startOutside (start : Int) (elementType : ElementType)
  /-- The sequence takes more bytes than any memory can hold. -/
  | tooLarge
  /-- The last value is no value of the type. -/
  | overflow (report : Overflow)
  deriving DecidableEq, Repr

/-- How an action fails for which no sequence can be generated. -/
def Refusal.toFailure : Refusal → Failure
  | .startOutside start ty => .error (.invalidInput (.startOutside start ty))
  | .tooLarge => .abort "capacity overflow"
  | .overflow report => .error (.overflow report)

/-- The greatest number of bytes that a sequence may take. -/
def byteLimit : Nat := Int64.maxValue.toInt.natAbs

/-- The sequence of `length` values from `start` on. -/
def ofStart {ty : ElementType} (start : Value ty) (length : Nat) : Except Refusal Sequence :=
  if byteLimit < length * ty.bytes then .error .tooLarge
  else
    match Buffer.run? start length with
    | .ok values => .ok ⟨ty, values⟩
    | .error report => .error (.overflow report)

/-- The sequence of `length` values of a type from an integer on. -/
def generate (ty : ElementType) (start : Int) (length : Nat) : Except Refusal Sequence :=
  match Value.ofInt? ty start with
  | none => .error (.startOutside start ty)
  | some start => ofStart start length

/-- The sequence that the settings ask for. -/
def ofSettings (settings : SequenceSettings) : Except Refusal Sequence :=
  generate settings.elementType settings.start.toInt settings.length.toNat

/-- The number of bytes that a text takes besides its characters. -/
def textBytes : Nat := 24

/-- The number of bytes of some texts with a separator between them. -/
def joinedBytes (separator : String) (texts : List String) : Nat :=
  separator.utf8ByteSize * (texts.length - 1) +
    texts.foldl (fun bytes text => bytes + text.utf8ByteSize) 0

/-- Texts with a separator between them. First there must be room for the texts one by one, and then
    for what they are joined to. That is looked at before anything is joined: its length has to be a
    number of 64 bits, and within what any memory can hold. -/
def join (separator : String) (texts : List String) : Except Failure String :=
  if byteLimit < texts.length * textBytes then .error (.abort "capacity overflow")
  else if UInt64.size ≤ joinedBytes separator texts then
    .error (.abort "attempt to join into collection with len > usize::MAX")
  else if byteLimit < joinedBytes separator texts then .error (.abort "capacity overflow")
  else .ok (String.intercalate separator texts)

/-- The values in decimal. -/
def numerals (s : Sequence) : List String :=
  s.values.map fun v => v.toInt.repr

/-- The values in decimal, joined by a separator. -/
def renderText (separator : String) (s : Sequence) : String :=
  String.intercalate separator s.numerals

/-- The values as a document. -/
def toDocument (s : Sequence) : Document :=
  .array (s.values.map fun v => .integer v.toInt)

/-- The sequence as the settings want it written. -/
def body (settings : OutputSettings) (s : Sequence) : String :=
  match settings.format with
  | .text => renderText settings.separator s
  | .json => Json.write s.toDocument

/-- Writes the sequence as the settings want it. JSON is written piece by piece, and it is not asked
    beforehand whether there is room for all of it. -/
def render (settings : OutputSettings) (s : Sequence) : Except Failure String :=
  match settings.format with
  | .text => join settings.separator s.numerals
  | .json => .ok (s.body settings)

end Sequence

end Ramp
