import Ramp.Json.Token

/-!
# `Json.Read` — JSON text as documents

Words are read one at a time into the containers that are open, so a text may nest to any depth.
A text that is wrong still gives a document: the containers that are open where it goes wrong are
closed around a `broken` in that place.

## Contents
- `Frame`: an open container; `unwind`: closes all of them around a value.
- `advance`: what one word does.
- `Reading` and `read`.
-/

namespace Ramp.Json

/-- A container that is open, with what it holds so far (latest first). -/
inductive Frame where
  | array (items : List Document)
  /-- Between members. -/
  | table (members : List (Document × Document))
  /-- Behind a name, whose value is to come. -/
  | member (members : List (Document × Document)) (name : Document)

/-- What may come next. -/
inductive Expectation where
  | value
  /-- The first item or member, or the closing bracket. -/
  | firstOrClose
  | name
  | colon
  /-- A comma or the closing bracket. -/
  | commaOrClose

/-- Closes all open containers around a last value, or around what stands where a name belongs. -/
def unwind : List Frame → Document → Document
  | [], last => last
  | .array items :: frames, last => unwind frames (.array (last :: items).reverse)
  | .table members :: frames, last => unwind frames (.table ((last, .broken) :: members).reverse)
  | .member members name :: frames, last =>
    unwind frames (.table ((name, last) :: members).reverse)

/-- Where reading stands after a word. -/
inductive Progress where
  | open (frames : List Frame) (next : Expectation)
  | whole (document : Document)
  | stuck (document : Document)

/-- Puts a value that is whole into the innermost container. -/
def deliver (value : Document) : List Frame → Progress
  | [] => .whole value
  | .array items :: frames => .open (.array (value :: items) :: frames) .commaOrClose
  | .member members name :: frames =>
    .open (.table ((name, value) :: members) :: frames) .commaOrClose
  | .table members :: frames => .stuck (unwind (.table members :: frames) .broken)

/-- A word where a value is due. -/
def advanceValue (frames : List Frame) : Token → Progress
  | .scalar value => deliver value frames
  | .openArray => .open (.array [] :: frames) .firstOrClose
  | .openTable => .open (.table [] :: frames) .firstOrClose
  | _ => .stuck (unwind frames .broken)

/-- A word where a name is due. A value in its place is kept as far as its kind. -/
def advanceName (frames : List Frame) : Token → Progress
  | .scalar (.string text) =>
    match frames with
    | .table members :: frames => .open (.member members (.string text) :: frames) .colon
    | frames => .stuck (unwind frames .broken)
  | .scalar value => .stuck (unwind frames value)
  | .openArray => .stuck (unwind frames (.array []))
  | .openTable => .stuck (unwind frames (.table []))
  | _ => .stuck (unwind frames .broken)

/-- What one word does to the open containers. -/
def advance (frames : List Frame) (next : Expectation) (token : Token) : Progress :=
  match next, frames, token with
  | .firstOrClose, .array items :: frames, .closeArray => deliver (.array items.reverse) frames
  | .firstOrClose, .table members :: frames, .closeTable => deliver (.table members.reverse) frames
  | .firstOrClose, .table members :: frames, token => advanceName (.table members :: frames) token
  | .firstOrClose, frames, token => advanceValue frames token
  | .value, frames, token => advanceValue frames token
  | .name, frames, token => advanceName frames token
  | .colon, frames, .colon => .open frames .value
  | .commaOrClose, .array items :: frames, .closeArray => deliver (.array items.reverse) frames
  | .commaOrClose, .table members :: frames, .closeTable => deliver (.table members.reverse) frames
  | .commaOrClose, .array items :: frames, .comma => .open (.array items :: frames) .value
  | .commaOrClose, .table members :: frames, .comma => .open (.table members :: frames) .name
  | _, frames, _ => .stuck (unwind frames .broken)

/-- Reads one document off a list of words. -/
def build : List Frame → Expectation → List Token → Document × List Token
  | frames, _, [] => (unwind frames .broken, [])
  | frames, next, token :: rest =>
    match advance frames next token with
    | .open frames next => build frames next rest
    | .whole document => (document, rest)
    | .stuck document => (document, [])

/-- A document as read, and whether nothing but gaps follows it. -/
structure Reading where
  document : Document
  isWhole : Bool

/-- Reads a text. -/
def read (s : String) : Reading :=
  let (document, rest) := build [] .value (tokens s.toList)
  ⟨document, rest.isEmpty⟩

end Ramp.Json
