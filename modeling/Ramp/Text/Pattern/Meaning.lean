import Ramp.Text.Pattern.Read

/-!
# `Text.Pattern.Meaning` — what written patterns mean

Parts mean what the modes before them say. Among the characters of Unicode nothing is known of
classes, words and case, so whatever asks for them has no meaning there. Among those of ASCII it has
one, as long as it does not reach beyond ASCII.

## Contents
- `Mode` and `Mode.apply`.
- `SetTree.meaning?`, `Tree.meaning?`: the meaning of sets and patterns, if they have one.
- `Pattern.ofText?`: the pattern that a whole text gives.
-/

namespace Ramp.Text

namespace Pattern

/-- The modes on which the meaning depends, for texts of one line. -/
structure Mode where
  foldsCase : Bool := false
  swapsGreed : Bool := false
  isUnicode : Bool := true
  deriving DecidableEq, Repr

namespace Mode

/-- The modes after a change. -/
def apply (mode : Mode) (change : FlagChange) : Mode where
  foldsCase := change.apply .foldsCase mode.foldsCase
  swapsGreed := change.apply .swapsGreed mode.swapsGreed
  isUnicode := change.apply .isUnicode mode.isUnicode

/-- Whether case can be folded if it has to be. -/
def canFold (mode : Mode) : Bool :=
  !(mode.foldsCase && mode.isUnicode)

/-- Whether a character may stand in a set. -/
def allowsInSet (mode : Mode) (c : Literal) : Bool :=
  mode.canFold && (mode.isUnicode || c.char.toNat < 0x80)

/-- Whether a character may stand outside of sets. Beyond ASCII a byte is no character. -/
def allows (mode : Mode) (c : Literal) : Bool :=
  mode.canFold && (mode.isUnicode || !c.isByte || c.char.toNat < 0x80)

/-- A set or its complement, which reaches beyond ASCII. -/
def negated? (mode : Mode) (isNegated : Bool) (set : CharSet) : Option CharSet :=
  if isNegated then
    if mode.isUnicode then some (.complement set) else none
  else some set

/-- A class that a backslash and a letter stand for. -/
def letter? (mode : Mode) (isNegated : Bool) (set : CharSet) : Option CharSet :=
  if mode.isUnicode then none else mode.negated? isNegated set

/-- A place between two characters. Words are known in ASCII only. -/
def edge? (mode : Mode) (edge : Edge) : Option Edge :=
  match edge with
  | .atStart | .atEnd => some edge
  | _ => if mode.isUnicode then none else some edge

end Mode

/-- Two sets combined. -/
def SetOperation.combine (operation : SetOperation) (a b : CharSet) : CharSet :=
  match operation with
  | intersection => .inter a b
  | difference => .inter a (.complement b)
  | symmetricDifference => .union (.inter a (.complement b)) (.inter b (.complement a))

/-- The meaning of a written set. -/
def SetTree.meaning? (mode : Mode) : SetTree → Option CharSet
  | empty => some .empty
  | one c => if mode.allowsInSet c then some (.one c.char) else none
  | span c d =>
    if mode.allowsInSet c && mode.allowsInSet d then some (.range c.char d.char) else none
  | named isNegated set => if mode.canFold then mode.negated? isNegated set else none
  | letter isNegated set => mode.letter? isNegated set
  | nested isNegated set => do mode.negated? isNegated (← set.meaning? mode)
  | union a b => return .union (← a.meaning? mode) (← b.meaning? mode)
  | combined operation a b =>
    return operation.combine (← a.meaning? mode) (← b.meaning? mode)

/-- A pattern so often. -/
def Count.apply (count : Count) (isGreedy : Bool) (p : Pattern) : Pattern :=
  match count with
  | atMostOnce => .maybe isGreedy p
  | any => .maybe isGreedy (.again isGreedy p)
  | atLeastOnce => .again isGreedy p

/-- The meaning of a written pattern, and the modes behind it. -/
def Tree.meaning? (mode : Mode) : Tree → Option (Pattern × Mode)
  | empty => some (.empty, mode)
  | change c => some (.empty, mode.apply c)
  | literal c => if mode.allows c then some (.char mode.foldsCase (.one c.char), mode) else none
  | point => if mode.isUnicode then some (.char false (.complement (.one '\n')), mode) else none
  | edge e => (mode.edge? e).map fun e => (.edge e, mode)
  | letter isNegated set =>
    (mode.letter? isNegated set).map fun set => (.char mode.foldsCase set, mode)
  | brackets isNegated set => do
    let set ← mode.negated? isNegated (← set.meaning? mode)
    return (.char mode.foldsCase set, mode)
  | repetition count isGreedy t => do
    let (p, mode) ← t.meaning? mode
    return (count.apply (isGreedy != mode.swapsGreed) p, mode)
  | group _ c t => do
    let (p, _) ← t.meaning? (mode.apply c)
    return (p, mode)
  | alt a b => do
    let (p, mode) ← a.meaning? mode
    let (q, mode) ← b.meaning? mode
    return (.alt p q, mode)
  | seq a b => do
    let (p, mode) ← a.meaning? mode
    let (q, mode) ← b.meaning? mode
    return (.seq p q, mode)

/-- How deep the parts of a pattern may be nested. -/
def depthLimit : Nat := 250

/-- The pattern that a text gives. No two groups in it have the same name. -/
def ofText? (s : String) : Option Pattern := do
  let tree ← Tree.ofText? s
  guard (tree.names.Nodup ∧ tree.depth ≤ depthLimit)
  let (p, _) ← tree.meaning? {}
  return p

end Pattern

end Ramp.Text
