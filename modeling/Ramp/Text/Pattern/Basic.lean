/-!
# `Text.Pattern.Basic` — patterns and the texts they fit

A pattern describes texts of one line. A text may be read by a pattern in several ways, which are
ordered: the first alternative comes before the second one, and a greedy repetition prefers to go
on. A pattern may be preceded by anything, as little as possible. It *fits* a text when the way that
comes first ends where the text ends.

Case is folded, and words are told apart, within ASCII.

## Contents
- `CharSet` and `CharSet.contains`.
- `Edge` and `Edge.holds`: what is asked of a place between two characters.
- `Pattern`, `Pattern.rests`: where the ways of reading end, in order.
- `Pattern.anywhere`, `Pattern.fits`.
-/

namespace Ramp.Text

/-- A set of characters. -/
inductive CharSet where
  | empty
  /-- The characters from one to another. -/
  | range (first last : Char)
  | union (a b : CharSet)
  | inter (a b : CharSet)
  | complement (a : CharSet)
  deriving DecidableEq, Repr

namespace CharSet

/-- Whether a character is in a set, perhaps in the other case. -/
def contains (foldsCase : Bool) : CharSet → Char → Bool
  | empty, _ => false
  | range first last, c =>
    let inside (c : Char) : Bool := first ≤ c && c ≤ last
    inside c || (foldsCase && (inside c.toLower || inside c.toUpper))
  | union a b, c => a.contains foldsCase c || b.contains foldsCase c
  | inter a b, c => a.contains foldsCase c && b.contains foldsCase c
  | complement a, c => !a.contains foldsCase c

/-- One character. -/
def one (c : Char) : CharSet :=
  range c c

/-- The characters of some ranges. -/
def ofRanges (ranges : List (Char × Char)) : CharSet :=
  ranges.foldl (fun set r => union set (range r.1 r.2)) empty

/-- The digits. -/
def digit : CharSet := range '0' '9'

/-- The blanks. -/
def blank : CharSet := ofRanges [(' ', ' '), ('\t', '\r')]

/-- The characters of words: letters, digits and the underscore. -/
def word : CharSet := ofRanges [('a', 'z'), ('A', 'Z'), ('0', '9'), ('_', '_')]

end CharSet

/-- What is asked of a place between two characters. -/
inductive Edge where
  | atStart
  | atEnd
  /-- A word starts or ends. -/
  | atBorder
  /-- No word starts or ends. -/
  | atNoBorder
  | atWordStart
  | atWordEnd
  deriving DecidableEq, Repr

/-- Whether a place is as asked for, by the characters before and behind it. -/
def Edge.holds (edge : Edge) (before behind : Option Char) : Bool :=
  let inWord (c : Option Char) : Bool := c.any (CharSet.word.contains false)
  match edge with
  | atStart => before.isNone
  | atEnd => behind.isNone
  | atBorder => inWord before != inWord behind
  | atNoBorder => inWord before == inWord behind
  | atWordStart => !inWord before && inWord behind
  | atWordEnd => inWord before && !inWord behind

/-- What texts look like. -/
inductive Pattern where
  | empty
  /-- One character of a set. -/
  | char (foldsCase : Bool) (set : CharSet)
  /-- Nothing, at some places. -/
  | edge (edge : Edge)
  /-- One pattern after the other. -/
  | seq (p q : Pattern)
  /-- One pattern or the other. -/
  | alt (p q : Pattern)
  /-- A pattern once or not at all. -/
  | maybe (isGreedy : Bool) (p : Pattern)
  /-- A pattern once or more often. -/
  | again (isGreedy : Bool) (p : Pattern)
  deriving DecidableEq, Repr

/-- A place in a text: the character before it, and all that follows it. -/
structure Place where
  before : Option Char
  rest : List Char
  deriving DecidableEq, Repr

namespace Pattern

/-- Where the ways of reading once or more often end. A further time counts only if it takes
    something. -/
def repeated (isGreedy : Bool) (once : Place → List Place) : Nat → Place → List Place
  | 0, _ => []
  | n + 1, place =>
    ((once place).flatMap fun next =>
      let more :=
        if next.rest.length < place.rest.length then repeated isGreedy once n next else []
      if isGreedy then more ++ [next] else next :: more).eraseDups

/-- Where the ways of reading from a place on end, in the order in which they are preferred. -/
def rests : Pattern → Place → List Place
  | empty, place => [place]
  | char foldsCase set, place =>
    match place.rest with
    | [] => []
    | c :: rest => if set.contains foldsCase c then [⟨some c, rest⟩] else []
  | edge e, place => if e.holds place.before place.rest.head? then [place] else []
  | seq p q, place => ((p.rests place).flatMap q.rests).eraseDups
  | alt p q, place => (p.rests place ++ q.rests place).eraseDups
  | maybe isGreedy p, place =>
    (if isGreedy then p.rests place ++ [place] else place :: p.rests place).eraseDups
  | again isGreedy p, place => repeated isGreedy p.rests (place.rest.length + 1) place

/-- A pattern with anything before it, as little as possible. -/
def anywhere (p : Pattern) : Pattern :=
  seq (maybe false (again false (char false (.complement .empty)))) p

/-- Whether the preferred way of finding a pattern in a text ends where the text ends. -/
def fits (p : Pattern) (s : String) : Bool :=
  match p.anywhere.rests ⟨none, s.toList⟩ with
  | place :: _ => place.rest.isEmpty
  | [] => false

end Pattern

end Ramp.Text
