import Ramp.Text.Hex
import Ramp.Text.Ranges

/-!
# `Text.Quoted` — quoted text

A quoted text stands between double quotes and shows every character that a reader cannot see by
an escape.

## Contents
- `isGraphic`: the characters that stand for themselves.
- `quoteChar` and `quote`.
-/

namespace Ramp.Text

/-- Whether a character can be seen as it is: it is printable and no mark on another one. -/
def isGraphic (c : Char) : Bool :=
  !inRanges unprintable c && !inRanges combining c

/-- One character inside quotes. -/
def quoteChar (c : Char) : String :=
  if c = '"' then "\\\""
  else if c = '\\' then "\\\\"
  else if c = '\t' then "\\t"
  else if c = '\r' then "\\r"
  else if c = '\n' then "\\n"
  else if c.toNat = 0 then "\\0"
  else if isGraphic c then String.singleton c
  else "\\u\x7b" ++ hex c.toNat ++ "\x7d"

/-- A text between double quotes, with what cannot be seen escaped. -/
def quote (s : String) : String :=
  "\"" ++ String.join (s.toList.map quoteChar) ++ "\""

end Ramp.Text
