import Ramp.Named
import Ramp.Document.Fault

/-!
# `Document.Decode` — reading values out of documents

A record of named fields, each with a default, is written as a table of some of
its fields in any order, or as an array of its first fields in their order. Fields are read in the
order of the document, and the first fault met is the one reported.

## Contents
- `count`, `start`, `text`, `flag`, `choice`: readers for the kinds of scalar.
- `FieldReader`: a name and a reader for a field of a record.
- `record`: a record from a table or an array, with `record_table_nil`: an empty table gives the
  defaults.
-/

namespace Ramp.Document

/-- Reads an unsigned integer of 64 bits. -/
def count : Document → Except Fault UInt64
  | .integer n =>
    if 0 ≤ n ∧ n < UInt64.size then .ok (UInt64.ofNat n.toNat)
    else .error (.misfit (.range n "usize"))
  | found => .error (found.unexpected "usize")

/-- Reads a signed integer of 64 bits. -/
def start : Document → Except Fault Int64
  | .integer n =>
    if Int64.minValue.toInt ≤ n ∧ n ≤ Int64.maxValue.toInt then .ok (Int64.ofInt n)
    else .error (.misfit (.range n "i64"))
  | found => .error (found.unexpected "i64")

/-- Reads a text. -/
def text : Document → Except Fault String
  | .string (some value) => .ok value
  | found => .error (found.unexpected "a string")

/-- Reads a truth value. -/
def flag : Document → Except Fault Bool
  | .boolean value => .ok value
  | found => .error (found.unexpected "a boolean")

/-- The member with exactly this name. -/
def member (α : Type) [Named α] (name : String) : Except Fault α :=
  match Named.ofName? name with
  | some a => .ok a
  | none => .error (.misfit (.choice name (Named.names α)))

/-- What may stand beside the name in TOML: an empty table. -/
def emptyTable : Document → Except Fault Unit
  | .table [] | .array [] => .ok ()
  | .table _ | .array _ => .error (.misfit .choiceTable)
  | .tables _ => .error (.misfit .choiceTables)
  | .integer _ => .error (.misfit (.choiceExtra "integer"))
  | .real _ => .error (.misfit (.choiceExtra "float"))
  | .boolean _ => .error (.misfit (.choiceExtra "boolean"))
  | .string _ => .error (.misfit (.choiceExtra "string"))
  | .date => .error (.misfit (.choiceExtra "datetime"))
  | .null | .broken => .error .malformed

/-- Reads a choice from TOML: its name, or a table with that name alone and nothing in it. -/
def choiceToml (α : Type) [Named α] : Document → Except Fault α
  | .string (some name) => member α name
  | .table [(.string (some name), value)] => do
    let a ← member α name
    emptyTable value
    return a
  | .table [] => .error (.misfit .choiceNone)
  | .table _ => .error (.misfit .choiceSeveral)
  | _ => .error (.misfit .choiceForm)

/-- What may stand beside the name in JSON: null. -/
def nothing : Document → Except Fault Unit
  | .null => .ok ()
  | found => .error (found.unexpected "unit")

/-- Reads a choice from JSON: its name, or an object with that name alone and null beside it. -/
def choiceJson (α : Type) [Named α] : Document → Except Fault α
  | .string (some name) => member α name
  | .table ((.string (some name), value) :: rest) => do
    let a ← member α name
    nothing value
    if rest.isEmpty then return a else throw .malformed
  | _ => .error .malformed

/-- Reads a choice. -/
def choice (α : Type) [Named α] : Dialect → Document → Except Fault α
  | .toml => choiceToml α
  | .json => choiceJson α

/-- A field of a record: its name, and the change to the record that a value makes. -/
structure FieldReader (σ : Type) where
  name : String
  read : Document → Except Fault (σ → σ)

variable {σ : Type}

/-- A field that stores what a reader reads. -/
def FieldReader.of {α : Type} (name : String) (read : Document → Except Fault α)
    (store : α → σ → σ) : FieldReader σ :=
  ⟨name, fun value => store <$> read value⟩

/-- Reads the members of a table in order. A field may come once; what is no field is passed over,
    provided its text is right. -/
def members (fields : List (FieldReader σ)) :
    List String → σ → List (Document × Document) → Except Fault σ
  | _, record, [] => .ok record
  | seen, record, (name, value) :: rest =>
    match name with
    | .string (some name) =>
      match fields.find? fun field => field.name == name with
      | some field =>
        if seen.contains name then .error (.misfit (.repeated name))
        else do
          let change ← field.read value
          members fields (name :: seen) (change record) rest
      | none => if value.isWellFormed then members fields seen record rest else .error .malformed
    | _ => .error .malformed

/-- Reads the items of an array as the first fields in order. Items past the last field are passed
    over in TOML and wrong in JSON. -/
def items (dialect : Dialect) : List (FieldReader σ) → σ → List Document → Except Fault σ
  | _, record, [] => .ok record
  | [], record, _ :: _ =>
    match dialect with
    | .toml => .ok record
    | .json => .error .malformed
  | field :: fields, record, item :: rest => do
    let change ← field.read item
    items dialect fields (change record) rest

/-- Reads a record, from `defaults` on. A date counts as a table of other fields. -/
def record (dialect : Dialect) (title : String) (fields : List (FieldReader σ)) (defaults : σ) :
    Document → Except Fault σ
  | .table found => members fields [] defaults found
  | .array found | .tables found => items dialect fields defaults found
  | .date => .ok defaults
  | found => .error (found.unexpected title)

/-- An empty table gives the defaults. -/
@[simp] theorem record_table_nil (dialect : Dialect) (title : String)
    (fields : List (FieldReader σ)) (defaults : σ) :
    record dialect title fields defaults (.table []) = .ok defaults := rfl

end Ramp.Document
