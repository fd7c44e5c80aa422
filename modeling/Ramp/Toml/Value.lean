import Ramp.Toml.Date
import Ramp.Toml.Number
import Ramp.Toml.Table
import Ramp.Toml.Text

/-!
# `Toml.Value` — the values of keys

## Contents
- `array`, `braces`: containers, over a reader of what they contain.
- `assignment`: a key and its value.
- `value`: any value, nested up to a limit.
-/

namespace Ramp.Toml

open Reader

/-- Items between brackets with commas between them, of which one may follow the last item. Lines
    may end anywhere between items. -/
def array (value : Reader Document) : Reader Document := do
  mark "["
  filler
  let items ← (do
    let item : Reader Document := do
      filler
      let item ← value
      filler
      return item
    let first ← item
    let rest ← many (do mark ","; item)
    discard <| optional (mark ",")
    return first :: rest) <|> pure []
  filler
  mark "]"
  return .array items

/-- A key, an equals sign and a value. -/
def assignment (value : Reader Document) : Reader (List String × String × Document) := do
  let (path, name) ← key
  mark "="
  gap
  let value ← value
  return (path, name, value)

/-- A table on one line, between braces. -/
def braces (value : Reader Document) : Reader Document := do
  mark "\x7b"
  let member : Reader (List String × String × Document) := do
    let member ← assignment value
    gap
    return member
  let members ← (do
    let first ← member
    let rest ← many (do mark ","; member)
    return first :: rest) <|> pure []
  gap
  mark "\x7d"
  let entries ← members.foldlM
    (fun entries (path, name, value) => Entries.assign path name value entries) ([] : Entries)
  return Entries.toDocument entries

/-- A truth value. -/
def boolean : Reader Document :=
  (do mark "true"; return .boolean true) <|> (do mark "false"; return .boolean false)

/-- A value with no others in it. -/
def scalar : Reader Document :=
  (do return .string (some (← text))) <|> boolean <|> date <|> real <|> integer

/-- A value with containers nested up to a limit. -/
def value : Nat → Reader Document
  | 0 => scalar
  | limit + 1 => scalar <|> array (value limit) <|> braces (value limit)

end Ramp.Toml
