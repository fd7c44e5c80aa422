/-!
# `Reader` — reading from the front of a text

A reader takes something off the front of a text or fails. A reader that fails has taken nothing,
so that another one can be tried in its place.

## Contents
- `Reader`, and the readers `one`, `mark`, `takeAll` of single characters, given characters and
  stretches of characters.
- `ahead`: a look at the next character.
- `many`: a reader repeated as often as it succeeds.
- `endOfText`.
-/

namespace Ramp

/-- Takes something off the front of a text, or fails. -/
abbrev Reader (α : Type) := StateT (List Char) Option α

namespace Reader

variable {α : Type}

/-- One character of a class. -/
def one (accept : Char → Bool) : Reader Char
  | [] => none
  | c :: rest => if accept c then some (c, rest) else none

/-- Exactly the given characters. -/
def mark (wanted : String) : Reader Unit := fun cs =>
  if wanted.toList.isPrefixOf cs then some ((), cs.drop wanted.length) else none

/-- Takes nothing, and succeeds if the next character is accepted; at the end there is none. -/
def ahead (accept : Option Char → Bool) : Reader Unit := fun cs =>
  if accept cs.head? then some ((), cs) else none

/-- The longest stretch of characters of a class, which may be empty. -/
def takeAll (accept : Char → Bool) : Reader (List Char) := fun cs =>
  some (cs.takeWhile accept, cs.dropWhile accept)

/-- A reader repeated as often as it succeeds, but at most so many times. -/
def upTo (reader : Reader α) : Nat → Reader (List α)
  | 0 => pure []
  | n + 1 =>
    (do
      let first ← reader
      let rest ← upTo reader n
      return first :: rest) <|> pure []

/-- A reader repeated as often as it succeeds. A reader that takes something each time succeeds at
    most as often as there are characters. -/
def many (reader : Reader α) : Reader (List α) := fun cs =>
  upTo reader cs.length cs

/-- Nothing, at the end of the text. -/
def endOfText : Reader Unit
  | [] => some ((), [])
  | _ :: _ => none

end Reader

end Ramp
