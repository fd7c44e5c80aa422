import Ramp.Log.Condition
import Ramp.Log.Threshold
import Ramp.Text.Blank
import Ramp.Text.Ranges
import Ramp.Text.Slice

/-!
# `Log.Directive` — one rule of a filter

A directive sets a threshold for some of what happens: for what comes from targets that begin in
some way, or for what happens within spans with some name or some field. Of two directives the one
with the longer target is more specific; then the one that names a span, then the one that names a
field.

Not every text is a directive. Besides, the places in a text are counted without the blanks in front
of it, and the parts are taken from the text with them; so a place may lie within a blank that takes
several bytes, and whoever cuts there is stopped.

## Contents
- `Directive` with `Directive.text`.
- `Directive.order`: which one of two directives is more specific.
- `Directive.isGeneral`, `Directive.isForSpans`: the two kinds of directive; some are of both.
- `Directive.covers`, `Directive.concerns`, `Directive.holdsIn`: what a directive is for.
- `Directive.Fault`, and `Directive.ofText`, which reads a directive.
-/

namespace Ramp.Log

/-- A threshold for some of what happens. -/
structure Directive where
  /-- How the targets begin; `none` stands for all targets. -/
  target : Option String := none
  /-- The name of the spans; `none` stands for all names. -/
  span : Option String := none
  /-- What is asked of a field. -/
  field : Option FieldCondition := none
  threshold : Threshold
  deriving DecidableEq, Repr

namespace Directive

/-- How a directive is written. -/
def text (directive : Directive) : String :=
  let inside := directive.span.getD "" ++ match directive.field with
    | some condition => "\x7b" ++ condition.text ++ "\x7d"
    | none => ""
  let start := directive.target.getD "" ++
    if directive.span.isSome || directive.field.isSome then "[" ++ inside ++ "]" else ""
  let hasStart := directive.target.isSome || directive.span.isSome || directive.field.isSome
  (if hasStart then start ++ "=" else "") ++ directive.threshold.name

/-- The rank of a target: a longer one has a higher rank. -/
def targetRank (directive : Directive) : Nat :=
  match directive.target with
  | none => 0
  | some target => target.utf8ByteSize + 1

/-- Compares directives by how specific they are. Only directives for the same things are equal. -/
def order (d e : Directive) : Ordering :=
  (compareOfLessAndEq d.targetRank e.targetRank).then <|
  (compareOfLessAndEq d.span.isSome.toNat e.span.isSome.toNat).then <|
  (compareOfLessAndEq d.field.isSome.toNat e.field.isSome.toNat).then <|
  (compareOfLessAndEq (d.target.getD "") (e.target.getD "")).then <|
  (compareOfLessAndEq (d.span.getD "") (e.span.getD "")).then <|
    match d.field, e.field with
    | some c, some c' => c.order c'
    | _, _ => .eq

/-- Whether a directive speaks of no span by name and of no value: what it says of targets and
    fields then holds for everything. -/
def isGeneral (directive : Directive) : Bool :=
  directive.span.isNone && directive.field.all fun condition => condition.value.isNone

/-- Whether a directive speaks of a span or a field: it then holds for what happens within spans. -/
def isForSpans (directive : Directive) : Bool :=
  directive.span.isSome || directive.field.isSome

/-- Whether a directive asks for a value. -/
def asksForValue (directive : Directive) : Bool :=
  directive.field.any fun condition => condition.value.isSome

/-- Whether a directive is for a target. -/
def covers (directive : Directive) (target : String) : Bool :=
  directive.target.all fun start => start.toList.isPrefixOf target.toList

/-- Whether a directive is for a span, whatever the values in it are. -/
def concerns (directive : Directive) (span : Span) : Bool :=
  directive.covers span.target && directive.span.all (· == span.name) &&
    directive.field.all fun condition => condition.isFor (span.fields.map Prod.fst)

/-- Whether a directive is for a span with the values that it has. -/
def holdsIn (directive : Directive) (span : Span) : Bool :=
  directive.concerns span && directive.field.all fun condition => condition.holds span.fields

/-- Whether a directive may begin with a character, other than with a bracket. -/
def canStart (c : Char) : Bool :=
  c == '-' || c == '_' || c == ':' || Text.isAlphanumeric c

/-- Why a text gives no directive. -/
inductive Fault where
  /-- It is written as no directive is. -/
  | refused
  /-- It would have to be cut within a character, which ends all reading with a message. -/
  | stopped (message : String)
  deriving DecidableEq, Repr

/-- What a part of a directive gives, if it is right. -/
def accept {α : Type} : Option α → Except Fault α
  | some a => .ok a
  | none => .error .refused

/-- The part of a text between two places. -/
def cut (start stop : Nat) (all : List Char) : Except Fault String :=
  match Text.slice? start stop all with
  | some part => .ok (String.ofList part)
  | none => .error (.stopped (Text.sliceMessage start stop all))

/-- The end of a directive: nothing, or an equals sign and a threshold. Without a threshold
    everything is let through. -/
def readThreshold (all : List Char) (place : Nat) (directive : Directive) :
    List Char → Except Fault Directive
  | [] => .ok directive
  | '=' :: _ => do
    let name ← cut (place + 1) (Text.byteLength all) all
    if name.isEmpty then return directive
    else return { directive with threshold := ← accept (Threshold.ofText? name) }
  | _ => .error .refused

/-- What stands behind the bracket: the name of a span, and perhaps a field between braces. A part
    is taken when its end is found. -/
def readSpan (all : List Char) (place : Nat) (directive : Directive) (rest : List Char) :
    Except Fault Directive :=
  let inside := rest.takeWhile fun c => c != ']' && c != '\x7b'
  let stop := place + Text.byteLength inside
  match rest.drop inside.length with
  | ']' :: rest => do
    let name ← cut place stop all
    readThreshold all (stop + 1) { directive with span := some name } rest
  | '\x7b' :: rest => do
    let name ← cut place stop all
    let span := if name.isEmpty then none else some name
    let inside := rest.takeWhile (· != '\x7d')
    let start := stop + 1
    let stop := start + Text.byteLength inside
    match rest.drop inside.length with
    | '\x7d' :: rest =>
      let condition ← accept (FieldCondition.ofText? (← cut start stop all))
      match rest with
      | ']' :: rest =>
        readThreshold all (stop + 2) { directive with span, field := some condition } rest
      | _ => .error .refused
    | _ => .error .refused
  | _ => .error .refused

/-- The directive that a text gives: a threshold, or a target, a span or both, perhaps with a
    threshold. Places are counted without the blanks in front, but the parts are taken from the
    text with them. -/
def ofText (s : String) : Except Fault Directive :=
  let all := s.toList
  let trimmed := Text.trimChars all
  let everything : Directive := { threshold := .upTo .trace }
  match trimmed with
  | [] => .error .refused
  | '[' :: rest => readSpan all 1 everything rest
  | first :: _ =>
    if canStart first then
      let word := trimmed.takeWhile fun c => c != '=' && c != '['
      let place := Text.byteLength word
      match trimmed.drop word.length with
      | [] =>
        match Threshold.ofText? s with
        | some threshold => .ok { threshold }
        | none => .ok { everything with target := some s }
      | '[' :: rest => do
        let target ← cut 0 place all
        readSpan all (place + 1) { everything with target := some target } rest
      | rest => do
        let target ← cut 0 place all
        readThreshold all place { everything with target := some target } rest
    else .error .refused

end Directive

end Ramp.Log
