/-!
# `Document.Basic` — what a settings text says

A text in TOML or in JSON is read into one kind of tree. A JSON text is read as far as it goes:
where it breaks off or is wrong, the tree holds `broken` in that place, so that whoever walks the
tree from left to right meets a wrong value and a wrong text in the order in which they are written.

## Contents
- `Document`, the tree.
- `Document.isWellFormed`: nothing in the tree is broken.
- `Dialect`: which language a document was written in.
-/

namespace Ramp

/-- A tree of values as read from a text. -/
inductive Document where
  /-- The text is wrong here. -/
  | broken
  | null
  | boolean (value : Bool)
  | integer (value : Int)
  /-- A number that is no integer, by its text; `none` if it exceeds every double. -/
  | real (shown : Option String)
  /-- A text; `none` if its escapes denote no text. -/
  | string (text : Option String)
  /-- A date, a time of day, or both. -/
  | date
  | array (items : List Document)
  /-- Tables written one after the other under the same header. -/
  | tables (items : List Document)
  /-- Members in order. Where a name belongs there is a `string`, unless the text is wrong. -/
  | table (members : List (Document × Document))

/-- The languages that documents are written in. -/
inductive Dialect where
  | toml
  | json
  deriving DecidableEq, Repr

namespace Document

mutual

/-- Whether the text of this value is right to its end. -/
def isWellFormed : Document → Bool
  | broken => false
  | array items => areWellFormed items
  | tables items => areWellFormed items
  | table members => haveWellFormed members
  | _ => true

/-- Whether the texts of all these values are right. -/
def areWellFormed : List Document → Bool
  | [] => true
  | item :: rest => isWellFormed item && areWellFormed rest

/-- Whether the texts of all these members are right. -/
def haveWellFormed : List (Document × Document) → Bool
  | [] => true
  | member :: rest => isWellFormedMember member && haveWellFormed rest

/-- Whether a name and the text of its value are right. -/
def isWellFormedMember : Document × Document → Bool
  | (name, value) => isWellFormed name && isWellFormed value

end

end Document

end Ramp
