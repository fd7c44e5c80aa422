import Ramp.Config.Document
import Ramp.Json.Print
import Ramp.Json.Read

/-!
# `Json.Decode` — values from and to JSON text

A fault within the document comes before the complaint that something follows it.

## Contents
- `decode`: reads a text and then a value out of its document.
- `Named.ofJson` and `Named.toJson`, `Config.ofJson` and `Config.toJson`.
-/

namespace Ramp

/-- Reads a value out of a JSON text. -/
def Json.decode {α : Type} (ofDocument : Document → Except Fault α) (text : String) :
    Except Fault α := do
  let reading := Json.read text
  let value ← ofDocument reading.document
  if reading.isWhole then return value else throw .malformed

/-- Reads a member of a finite type out of a JSON text. -/
def Named.ofJson (α : Type) [Named α] (text : String) : Except Fault α :=
  Json.decode (Document.choice α .json) text

/-- A member of a finite type as JSON text. -/
def Named.toJson {α : Type} [Named α] (a : α) : String :=
  Json.write (Config.nameDocument a)

/-- Reads settings out of a JSON text. -/
def Config.ofJson (text : String) : Except Fault Config :=
  Json.decode (Config.ofDocument .json) text

/-- Settings as JSON text. -/
def Config.toJson (config : Config) : String :=
  Json.write config.toDocument

end Ramp
