import Ramp.Text.Hex
import Ramp.Toml.Filler

/-!
# `Toml.Text` — texts in quotes, and keys

Texts are written on one line or on several, with escapes (double quotes) or without (single
quotes). A key is a chain of names, each of them bare or in quotes.

## Contents
- `escape`: one escaped character.
- `basic`, `literal`: texts on one line.
- `longText`: a text on several lines, which may hold one or two quotes in a row.
- `text`: any of these; `key`: a chain of names.
-/

namespace Ramp.Toml

open Reader

/-- A character given by so many hexadecimal digits. -/
def codePoint (digits : Nat) : Reader Char := do
  let cs ← (List.range digits).mapM fun _ => one fun c => (Text.hexDigit? c).isSome
  let n := cs.foldl (fun n c => n * 16 + (Text.hexDigit? c).getD 0) 0
  if n.isValidChar then return Char.ofNat n else failure

/-- A backslash and what it stands for. -/
def escape : Reader Char := do
  mark "\\"
  match ← one fun _ => true with
  | 'b' => return Char.ofNat 0x08
  | 't' => return '\t'
  | 'n' => return '\n'
  | 'f' => return Char.ofNat 0x0C
  | 'r' => return '\r'
  | '"' => return '"'
  | '\\' => return '\\'
  | 'u' => codePoint 4
  | 'U' => codePoint 8
  | _ => failure

/-- One character of a text with escapes, unless it is a quote. -/
def basicChar : Reader Char :=
  one (fun c => isText c && c != '"' && c != '\\') <|> escape

/-- A text with escapes, on one line. -/
def basic : Reader (List Char) := do
  mark "\""
  let cs ← many basicChar
  mark "\""
  return cs

/-- One character of a text without escapes, unless it is a quote. -/
def literalChar : Reader Char :=
  one fun c => isText c && c != '\''

/-- A text without escapes, on one line. -/
def literal : Reader (List Char) := do
  mark "'"
  let cs ← many literalChar
  mark "'"
  return cs

/-- A backslash at the end of a line, which takes the blanks and line ends after it away. -/
def continuation : Reader (List Char) := do
  mark "\\"
  gap
  newline
  discard <| many (discard (one fun c => c == ' ' || c == '\t') <|> newline)
  return []

/-- One or two quotes in a row, which close nothing. -/
def innerQuotes (quote : Char) : Reader (List Char) := do
  let run ← takeAll (· == quote)
  if run.length = 1 ∨ run.length = 2 then return run else failure

/-- The three quotes that close a text, behind up to two more that belong to it. -/
def closingQuotes (quote : Char) : Reader (List Char) := do
  let run ← takeAll (· == quote)
  if 3 ≤ run.length ∧ run.length ≤ 5 then return run.drop 3 else failure

/-- A text on several lines, without a line end that comes first in it. Each of its line ends
    counts as a line feed. -/
def longText (quote : Char) (piece : Reader (List Char)) : Reader (List Char) := do
  mark (String.ofList [quote, quote, quote])
  discard <| optional newline
  let lineFeed : Reader (List Char) := do newline; return ['\n']
  let pieces ← many (innerQuotes quote <|> lineFeed <|> piece)
  let last ← closingQuotes quote
  return pieces.flatten ++ last

/-- A text of any form. -/
def text : Reader String := do
  let single (reader : Reader Char) : Reader (List Char) := do return [← reader]
  let cs ← longText '"' (continuation <|> single basicChar) <|> basic <|>
    longText '\'' (single literalChar) <|> literal
  return String.ofList cs

/-- Whether a character may stand in a bare name. -/
def isBare (c : Char) : Bool :=
  c.isAlphanum || c == '-' || c == '_'

/-- One name. -/
def name : Reader String := do
  let bare : Reader (List Char) := do
    let first ← one isBare
    return first :: (← takeAll isBare)
  return String.ofList (← basic <|> literal <|> bare)

/-- From this number of names on a key is refused. -/
def nestingLimit : Nat := 80

/-- A chain of names with points between them: the names on the way, and the last one. -/
def key : Reader (List String × String) := do
  gap
  let first ← name
  gap
  let rest ← many do
    mark "."
    gap
    let next ← name
    gap
    return next
  let names := first :: rest
  if names.length < nestingLimit then return (names.dropLast, rest.getLast?.getD first)
  else failure

end Ramp.Toml
