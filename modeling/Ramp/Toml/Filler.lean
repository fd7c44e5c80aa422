import Ramp.Reader

/-!
# `Toml.Filler` — what carries no meaning

Between the parts of a document stand blanks, comments and ends of lines.

## Contents
- `isText`: what may stand in a comment or a text on one line.
- `gap`, `newline`, `comment`, `lineEnd`: what may stand between and behind the parts of a line.
- `filler`: what may stand between the items of an array.
-/

namespace Ramp.Toml

open Reader

/-- Whether a character may stand in a comment or a text on one line. -/
def isText (c : Char) : Bool :=
  c == '\t' || (0x20 ≤ c.toNat && c.toNat != 0x7F)

/-- Blanks and tabs. -/
def gap : Reader Unit := do
  discard <| takeAll fun c => c == ' ' || c == '\t'

/-- The end of a line. -/
def newline : Reader Unit :=
  mark "\n" <|> mark "\r\n"

/-- A comment, up to the end of its line. -/
def comment : Reader Unit := do
  mark "#"
  discard <| takeAll isText

/-- What may follow a statement: a comment, then the end of the line or of the text. -/
def lineEnd : Reader Unit := do
  gap
  discard <| optional comment
  newline <|> endOfText

/-- What may stand between the items of an array: blanks, comments and ends of lines. -/
def filler : Reader Unit := do
  discard <| many (discard (one fun c => c == ' ' || c == '\t') <|> newline <|> comment)

end Ramp.Toml
