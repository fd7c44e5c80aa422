import Ramp.Toml.Value

/-!
# `Toml.Read` — TOML text as documents

A text is a sequence of statements, each on a line of its own. Statements build up the document in
their order; one that contradicts an earlier one makes the whole text wrong.

## Contents
- `Statement` and its reader.
- `Draft`: the document so far, and the table whose header came last.
- `read`.
-/

namespace Ramp.Toml

open Reader

/-- What a line says. -/
inductive Statement where
  /-- Nothing. -/
  | blank
  | assign (path : List String) (name : String) (value : Document)
  /-- The header of a table. -/
  | openTable (path : List String) (name : String)
  /-- The header of one of several tables. -/
  | openItem (path : List String) (name : String)

/-- A line. -/
def statement : Reader Statement := do
  gap
  (do newline; return .blank) <|>
    (do comment; newline <|> endOfText; return .blank) <|>
    (do
      mark "[["
      let (path, name) ← key
      mark "]]"
      lineEnd
      return .openItem path name) <|>
    (do
      mark "["
      let (path, name) ← key
      mark "]"
      lineEnd
      return .openTable path name) <|>
    (do
      let (path, name, value) ← assignment (value (nestingLimit - 1))
      lineEnd
      return .assign path name value)

/-- All lines of a text. -/
def statements : Reader (List Statement) := do
  let statements ← many statement
  gap
  endOfText
  return statements

/-- A document in the making. -/
structure Draft where
  entries : Entries
  /-- The path to the table whose header came last. -/
  header : List String

/-- What a statement adds to a draft. -/
def Draft.add (draft : Draft) : Statement → Option Draft
  | .blank => some draft
  | .assign path name value => do
    let entries ← draft.entries.within draft.header (Entries.assign path name value)
    return { draft with entries }
  | .openTable path name => do
    let entries ← draft.entries.openTable path name
    return ⟨entries, path ++ [name]⟩
  | .openItem path name => do
    let entries ← draft.entries.openItem path name
    return ⟨entries, path ++ [name]⟩

/-- The characters of a text without a byte order mark in front. -/
def withoutMark (s : String) : List Char :=
  match s.toList with
  | [] => []
  | c :: rest => if c.toNat = 0xFEFF then rest else c :: rest

/-- Reads a text. -/
def read (s : String) : Option Document := do
  let (statements, _) ← statements (withoutMark s)
  let draft ← statements.foldlM Draft.add ⟨[], []⟩
  return draft.entries.toDocument

end Ramp.Toml
