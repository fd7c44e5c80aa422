import Ramp.Config.Basic
import Ramp.Log.Directive

/-!
# `Log.Filter` — which events are let through

A filter is a set of directives. Of the general ones, the most specific one that is for an event
decides on it; besides, within a span everything is let through that a directive for the span lets
through. A filter without directives lets only errors through.

## Contents
- `Filter` with `Filter.ofDirectives` and `Filter.text`.
- `Filter.admitsSpan`, `Filter.within`, `Filter.admits`: what gets through.
- `Filter.parse`, which refuses a list with a wrong directive in it, and `Filter.parseLossy`, which
  passes over wrong ones; either of them may be stopped.
- `Filter.ofValue`, for the value of a variable, and `Filter.ofSettings`, which chooses between two
  texts.
-/

namespace Ramp.Log

/-- Directives, the more specific ones first, and no two for the same things. -/
structure Filter where
  /-- The directives for all that happens. -/
  general : List Directive
  /-- The directives for what happens within spans. -/
  spans : List Directive
  /-- What may get through at all. -/
  limit : Threshold
  deriving DecidableEq, Repr

namespace Filter

/-- Puts a directive in its place. It replaces one for the same things. -/
def insert (d : Directive) : List Directive → List Directive
  | [] => [d]
  | e :: rest =>
    match d.order e with
    | .eq => d :: rest
    | .gt => d :: e :: rest
    | .lt => e :: insert d rest

/-- Directives in order, of which later ones replace earlier ones. -/
def sorted (directives : List Directive) : List Directive :=
  directives.foldl (fun sorted d => insert d sorted) []

/-- The limit that a directive sets. If it asks for a value, it cannot be told beforehand what
    happens within the span. -/
def limitOf (directive : Directive) : Threshold :=
  if directive.asksForValue then .upTo .trace else directive.threshold

/-- The filter of some directives. The limit is the most verbose one of all, also of those that are
    replaced. -/
def ofDirectives (directives : List Directive) : Filter where
  general := sorted (directives.filter Directive.isGeneral)
  spans := sorted (directives.filter Directive.isForSpans)
  limit := (directives.map limitOf).foldl Threshold.sup .off

/-- Whether the first general directive that is for something lets it through. -/
def admitsGenerally (filter : Filter) (level : Level) (isFor : Directive → Bool) : Bool :=
  match filter.general.find? isFor with
  | some d => d.threshold.admits level
  | none => false

/-- Whether a span is heeded. -/
def admitsSpan (filter : Filter) (span : Span) : Bool :=
  filter.limit.admits span.level &&
    (filter.spans.any (·.concerns span) ||
      filter.admitsGenerally span.level (·.covers span.target))

/-- What is let through because it happens within a span. -/
def within (filter : Filter) (span : Span) : Threshold :=
  ((filter.spans.filter (·.holdsIn span)).map Directive.threshold).foldl Threshold.sup .off

/-- Whether an event with a level, a target and fields is let through, where everything below a
    threshold is. -/
def admits (filter : Filter) (scope : Threshold) (target : String) (level : Level)
    (names : List String) : Bool :=
  if filter.general.isEmpty && filter.spans.isEmpty then level == .error
  else
    scope.admits level || filter.admitsGenerally level fun d =>
      d.covers target && d.field.all fun condition => condition.isFor names

/-- How a filter is written. -/
def text (filter : Filter) : String :=
  String.intercalate "," ((filter.general ++ filter.spans).map Directive.text)

/-- The parts of a list with commas between them, without the empty ones. -/
def pieces (s : String) : List String :=
  (Text.split ',' s).filter fun piece => !piece.isEmpty

/-- The filter that a list of directives gives, if all of them are right. Otherwise the first one
    that is not decides what becomes of the list. -/
def parse (s : String) : Except Directive.Fault Filter :=
  ofDirectives <$> (pieces s).mapM Directive.ofText

/-- A directive that was read, if it is right. -/
def tolerate : Except Directive.Fault Directive → Except String (Option Directive)
  | .ok directive => .ok (some directive)
  | .error .refused => .ok none
  | .error (.stopped message) => .error message

/-- The filter that the right ones in a list of directives give, unless one of them stops the
    reading. If there are none, errors are let through. -/
def parseLossy (s : String) : Except String Filter := do
  match ← (pieces s).filterMapM fun piece => tolerate (Directive.ofText piece) with
  | [] => return ofDirectives [{ threshold := .upTo .error }]
  | directives => return ofDirectives directives

/-- The variable of the environment that sets the filter. -/
def variableName : String := "RUST_LOG"

/-- The filter that the value of the variable gives. Without a value there is none. -/
def ofValue : Option String → Except Directive.Fault Filter
  | none => .error .refused
  | some text => parse text

/-- The filter that the value of the variable gives, or else the settings; or the message of what
    stops the reading. -/
def ofSettings (value : Option String) (settings : LoggingSettings) : Except String Filter :=
  match ofValue value with
  | .ok filter => .ok filter
  | .error .refused => parseLossy settings.normalizedLevel
  | .error (.stopped message) => .error message

end Filter

end Ramp.Log
