import Ramp.Text.Normal

/-!
# `Named` — finite types whose members are written by name

Every member of such a type has one lower-case name. Documents must give that name exactly; people
may give it in any ASCII case and with blanks around it.

## Contents
- `Named`: the members in order, their names, and the laws that make look-up exact.
- `Named.ofName?` with `ofName?_eq_some_iff` and `isSome_ofName?_iff`: the member with exactly this
  name.
- `Named.ofText?` with `ofText?_eq_some_iff`, `exists_ofText?_iff` and `ofText?_eq_none_iff`: the
  member whose name is the normal form of a text.
-/

namespace Ramp

/-- A type with finitely many members, each written by its own lower-case name. -/
class Named (α : Type) where
  /-- The members, in the order in which choices are listed. -/
  all : List α
  /-- How a member is written. -/
  name : α → String
  mem_all : ∀ a, a ∈ all
  name_inj : ∀ a b, name a = name b → a = b
  normalize_name : ∀ a, Text.normalize (name a) = name a

namespace Named

variable {α : Type} [Named α]

/-- The member with exactly this name. -/
def ofName? (s : String) : Option α :=
  all.find? fun a => name a == s

/-- The member whose name is the normal form of a text. -/
def ofText? (s : String) : Option α :=
  ofName? (Text.normalize s)

/-- The names of all members, in order. -/
def names (α : Type) [Named α] : List String :=
  (all (α := α)).map name

theorem ofName?_eq_some_iff {s : String} {a : α} : ofName? s = some a ↔ name a = s := by
  constructor
  · intro h
    simpa using List.find?_some h
  · intro h
    cases hf : ofName? (α := α) s with
    | none =>
      have := List.find?_eq_none.mp hf a (mem_all a)
      simp [h] at this
    | some b =>
      have hb : name b = s := by simpa using List.find?_some hf
      rw [name_inj a b (h.trans hb.symm)]

/-- The exact name is read back. -/
@[simp] theorem ofName?_name (a : α) : ofName? (name a) = some a :=
  ofName?_eq_some_iff.mpr rfl

/-- Exactly the names are read. -/
theorem isSome_ofName?_iff {s : String} : (ofName? (α := α) s).isSome ↔ s ∈ names α := by
  rw [ofName?, List.find?_isSome, names, List.mem_map]
  simp only [beq_iff_eq]

/-- A text is read as a member exactly when its normal form is that member's name. -/
theorem ofText?_eq_some_iff {s : String} {a : α} :
    ofText? s = some a ↔ name a = Text.normalize s :=
  ofName?_eq_some_iff

/-- A text is read as some member exactly when its normal form is one of the names. -/
theorem exists_ofText?_iff {s : String} :
    (∃ a : α, ofText? s = some a) ↔ Text.normalize s ∈ names α := by
  rw [← isSome_ofName?_iff, Option.isSome_iff_exists]
  rfl

theorem ofText?_eq_none_iff {s : String} :
    ofText? (α := α) s = none ↔ Text.normalize s ∉ names α := by
  rw [← exists_ofText?_iff]
  cases ofText? (α := α) s <;> simp

/-- Whatever is read exactly is read the same way from free text. -/
theorem ofText?_of_ofName? {s : String} {a : α} (h : ofName? s = some a) : ofText? s = some a := by
  rw [ofText?_eq_some_iff, ← ofName?_eq_some_iff.mp h, normalize_name]

/-- A name is read as its member. -/
@[simp] theorem ofText?_name (a : α) : ofText? (name a) = some a :=
  ofText?_of_ofName? (ofName?_name a)

end Named

end Ramp
