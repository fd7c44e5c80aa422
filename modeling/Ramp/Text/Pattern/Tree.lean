import Ramp.Text.Pattern.Basic

/-!
# `Text.Pattern.Tree` — patterns as they are written

A tree tells the parts of a written pattern apart. What the parts mean depends on the modes that
are set before them.

## Contents
- `Flag` and `FlagChange`: the modes, and what sets them.
- `SetTree` and `Tree`: sets of characters, and patterns.
- `SetTree.depth`, `Tree.depth`: how deep the parts are nested. Parts in a row, and alternatives,
  are nested once.
- `Tree.names`: the names of groups.
-/

namespace Ramp.Text.Pattern

/-- A mode. -/
inductive Flag where
  /-- Case does not matter. -/
  | foldsCase
  /-- The ends of lines are ends, too. -/
  | manyLines
  /-- A point is any character, also one that ends a line. -/
  | pointIsAll
  /-- Repetitions take as little as possible when nothing else is said. -/
  | swapsGreed
  /-- Characters are those of Unicode, and not only those of ASCII. -/
  | isUnicode
  /-- A line may also end with a carriage return. -/
  | returnEndsLine
  /-- Blanks and comments in the pattern mean nothing. -/
  | isSpaced
  deriving DecidableEq, Repr

/-- The modes that are set, and those that are taken back. -/
structure FlagChange where
  on : List Flag := []
  off : List Flag := []
  deriving DecidableEq, Repr

/-- A mode after a change. -/
def FlagChange.apply (change : FlagChange) (flag : Flag) (before : Bool) : Bool :=
  change.on.contains flag || (before && !change.off.contains flag)

/-- A character that stands for itself. -/
structure Literal where
  char : Char
  /-- Whether it is written as a byte. -/
  isByte : Bool := false
  deriving DecidableEq, Repr

/-- What two sets are combined to. -/
inductive SetOperation where
  | intersection
  | difference
  | symmetricDifference
  deriving DecidableEq, Repr

/-- A written set of characters. -/
inductive SetTree where
  | empty
  | one (c : Literal)
  | span (first last : Literal)
  /-- A set with a name of its own. -/
  | named (isNegated : Bool) (set : CharSet)
  /-- A class that a backslash and a letter stand for. -/
  | letter (isNegated : Bool) (set : CharSet)
  /-- A set in brackets. -/
  | nested (isNegated : Bool) (set : SetTree)
  /-- The members before the last one, and the last one. -/
  | union (a b : SetTree)
  | combined (operation : SetOperation) (a b : SetTree)
  deriving DecidableEq, Repr

/-- How often something is repeated. -/
inductive Count where
  | atMostOnce
  | any
  | atLeastOnce
  deriving DecidableEq, Repr

/-- A written pattern. -/
inductive Tree where
  | empty
  /-- A change of the modes, up to the end of the group. -/
  | change (change : FlagChange)
  | literal (c : Literal)
  /-- Any character. -/
  | point
  | edge (edge : Edge)
  /-- A class that a backslash and a letter stand for. -/
  | letter (isNegated : Bool) (set : CharSet)
  /-- A set in brackets. -/
  | brackets (isNegated : Bool) (set : SetTree)
  | repetition (count : Count) (isGreedy : Bool) (t : Tree)
  | group (name : Option String) (change : FlagChange) (t : Tree)
  /-- The alternatives before the last one, and the last one. -/
  | alt (a b : Tree)
  /-- The parts before the last one, and the last one. -/
  | seq (a b : Tree)
  deriving DecidableEq, Repr

/-- How deep the parts of a set are nested. -/
def SetTree.depth : SetTree → Nat
  | empty | one _ | span _ _ | named _ _ | letter _ _ => 0
  | nested _ set => set.depth + 1
  | union a b =>
    match a with
    | union _ _ => max a.depth (b.depth + 1)
    | _ => max a.depth b.depth + 1
  | combined _ a b => max a.depth b.depth + 1

/-- How deep the parts of a pattern are nested. -/
def Tree.depth : Tree → Nat
  | empty | change _ | literal _ | point | edge _ | letter _ _ => 0
  | brackets _ set => set.depth + 1
  | repetition _ _ t => t.depth + 1
  | group _ _ t => t.depth + 1
  | alt a b =>
    match a with
    | alt _ _ => max a.depth (b.depth + 1)
    | _ => max a.depth b.depth + 1
  | seq a b =>
    match a with
    | seq _ _ => max a.depth (b.depth + 1)
    | _ => max a.depth b.depth + 1

/-- The names of groups. -/
def Tree.names : Tree → List String
  | repetition _ _ t => t.names
  | group name _ t => name.toList ++ t.names
  | alt a b | seq a b => a.names ++ b.names
  | _ => []

end Ramp.Text.Pattern
