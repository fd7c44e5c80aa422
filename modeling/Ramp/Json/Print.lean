import Ramp.Document.Basic
import Ramp.Text.Hex

/-!
# `Json.Print` — documents as JSON text

The text holds no blanks. Numbers are written in decimal, and in texts only quotes, backslashes and
control characters are escaped.

## Contents
- `escape`, `quote`: texts.
- `writeOnto` and `write`: documents.
-/

namespace Ramp.Json

/-- One character of a text. -/
def escape (c : Char) : String :=
  if c = '"' then "\\\""
  else if c = '\\' then "\\\\"
  else if c = '\n' then "\\n"
  else if c = '\r' then "\\r"
  else if c = '\t' then "\\t"
  else if c.toNat = 0x08 then "\\b"
  else if c.toNat = 0x0C then "\\f"
  else if c.toNat < 0x10 then "\\u000" ++ Text.hex c.toNat
  else if c.toNat < 0x20 then "\\u00" ++ Text.hex c.toNat
  else String.singleton c

/-- A text in quotes. -/
def quote (s : String) : String :=
  "\"" ++ String.join (s.toList.map escape) ++ "\""

mutual

/-- Writes a document behind what is written already. -/
def writeOnto (out : String) : Document → String
  | .broken => out
  | .null | .date => out ++ "null"
  | .boolean value => out ++ (if value then "true" else "false")
  | .integer value => out ++ value.repr
  | .real shown => out ++ shown.getD "null"
  | .string text => out ++ quote (text.getD "")
  | .array items => (writeItems (out.push '[') items).push ']'
  | .tables items => (writeItems (out.push '[') items).push ']'
  | .table members => (writeMembers (out.push '{') members).push '}'

/-- Writes documents with commas between them. -/
def writeItems (out : String) : List Document → String
  | [] => out
  | [item] => writeOnto out item
  | item :: next :: rest => writeItems ((writeOnto out item).push ',') (next :: rest)

/-- Writes members with commas between them. -/
def writeMembers (out : String) : List (Document × Document) → String
  | [] => out
  | [member] => writeMember out member
  | member :: next :: rest => writeMembers ((writeMember out member).push ',') (next :: rest)

/-- Writes a name, a colon and a value. -/
def writeMember (out : String) : Document × Document → String
  | (name, value) => writeOnto ((writeOnto out name).push ':') value

end

/-- The text of a document. -/
def write (document : Document) : String :=
  writeOnto "" document

end Ramp.Json
