import Ramp.Document.Basic

/-!
# `Toml.Table` — tables that grow statement by statement

A table comes about by a header of its own, or as the way to another table. A table with a header
of its own is not given a second one; one that dotted keys have made can be extended by dotted keys
alone.

## Contents
- `Node`: a value, a table, or several tables under one header.
- `descend`: a change to the table at the end of a path.
- `assign`, `openTable`, `openItem`: what the three kinds of statement do.
- `toDocument`.
-/

namespace Ramp.Toml

/-- How a table came about. -/
inductive Origin where
  /-- By a header of its own, or in braces. -/
  | header
  /-- On the way to a table with a header. -/
  | passage
  /-- On the way to a value with a dotted key. -/
  | dotted
  deriving DecidableEq, Repr

/-- What a name in a table stands for. -/
inductive Node where
  | value (document : Document)
  | table (origin : Origin) (entries : List (String × Node))
  /-- Tables under the same header, of which only the latest can still grow. -/
  | tables (earlier : List Document) (latest : List (String × Node))

/-- What a table holds, in order. -/
abbrev Entries := List (String × Node)

namespace Node

mutual

/-- What a node says. -/
def toDocument : Node → Document
  | value document => document
  | table _ entries => .table (toMembers entries)
  | tables earlier latest => .tables (earlier ++ [.table (toMembers latest)])

/-- What entries say. -/
def toMembers : List (String × Node) → List (Document × Document)
  | [] => []
  | entry :: rest => toMember entry :: toMembers rest

/-- What an entry says. -/
def toMember : String × Node → Document × Document
  | (name, node) => (.string (some name), toDocument node)

end

end Node

namespace Entries

/-- What entries say as a table. -/
def toDocument (entries : Entries) : Document :=
  .table (Node.toMembers entries)

/-- Entries with a change made to what a name stands for. A name that is not there yet is added at
    the end. -/
def alter (name : String) (change : Option Node → Option Node) : Entries → Option Entries
  | [] => (change none).map fun node => [(name, node)]
  | (other, node) :: rest =>
    if other = name then (change (some node)).map fun node => (other, node) :: rest
    else (alter name change rest).map ((other, node) :: ·)

/-- Entries with a change made to the table at the end of a path, which is told how that table came
    about. What is missing on the way is added. -/
def descend (change : Origin → Entries → Option Entries) (made : Origin) :
    List String → Origin → Entries → Option Entries
  | [], origin, entries => change origin entries
  | name :: path, _, entries =>
    entries.alter name fun
      | none => (descend change made path made []).map (.table made)
      | some (.value _) => none
      | some (.table origin below) =>
        if made = .dotted ∧ origin = .header then none
        else (descend change made path origin below).map (.table origin)
      | some (.tables earlier latest) =>
        (descend change made path .header latest).map (.tables earlier)

/-- Gives a value to the last name of a key, in the table that the names before it lead to. -/
def assign (path : List String) (name : String) (value : Document) (entries : Entries) :
    Option Entries :=
  descend (fun origin entries =>
    if path.isEmpty ∨ origin = .dotted then
      entries.alter name fun
        | none => some (.value value)
        | some _ => none
    else none) .dotted path .header entries

/-- Gives a table a header of its own. If it was only a way to other tables it moves to the end. -/
def openTable (path : List String) (name : String) (entries : Entries) : Option Entries :=
  descend (fun _ entries =>
    match entries.lookup name with
    | none => some (entries ++ [(name, .table .header [])])
    | some (.table .passage below) =>
      some (entries.filter (fun entry => entry.1 != name) ++ [(name, .table .header below)])
    | some _ => none) .passage path .header entries

/-- Begins another table under a header that several tables share. -/
def openItem (path : List String) (name : String) (entries : Entries) : Option Entries :=
  descend (fun _ entries =>
    entries.alter name fun
      | none => some (.tables [] [])
      | some (.tables earlier latest) => some (.tables (earlier ++ [toDocument latest]) [])
      | some _ => none) .passage path .header entries

/-- Makes a change within the table that a header has opened. -/
def within (path : List String) (change : Entries → Option Entries) (entries : Entries) :
    Option Entries :=
  descend (fun _ entries => change entries) .passage path .header entries

end Entries

end Ramp.Toml
