import Ramp.Document.Decode

/-!
# `Proofs.Decoding` — every field comes from the document or else from the defaults

A record is read in the order of the document, one change after the other. `Focus` singles out one
field: its change sets what `get` sees, and no other change touches that. Whatever else a document
holds, a successful reading therefore leaves in this field what the document gives for it, and the
default if it gives nothing. The invariant of the induction is that, as long as the name has not
come, `get` still sees what it saw at first.

## Contents
- `Document.given?`: what a document gives for a field; `Given`: how that becomes a value.
- `Focus`, the field that a view of the record belongs to.
- `members_cons_eq_ok_iff`: one member of a table.
- `given_members`, `given_items`, `given_record`: the field after a reading; `given_bind`: the field
  of a record within a record.
-/

namespace Ramp

/-- A chain of two readings succeeds exactly when both do. -/
theorem Except.bind_eq_ok_iff {ε α β : Type} {first : Except ε α} {next : α → Except ε β} {b : β} :
    (first >>= next) = .ok b ↔ ∃ a, first = .ok a ∧ next a = .ok b := by
  cases first <;> simp [bind, Except.bind]

/-- A chain of two readings fails where the first one does that fails. -/
theorem Except.bind_eq_error_iff {ε α β : Type} {first : Except ε α} {next : α → Except ε β}
    {e : ε} :
    (first >>= next) = .error e ↔ first = .error e ∨ ∃ a, first = .ok a ∧ next a = .error e := by
  cases first <;> simp [bind, Except.bind]

instance Except.decidableEq {ε α : Type} [DecidableEq ε] [DecidableEq α] :
    DecidableEq (Except ε α)
  | .ok a, .ok b => decidable_of_iff (a = b) ⟨congrArg Except.ok, Except.ok.inj⟩
  | .error e, .error e' => decidable_of_iff (e = e') ⟨congrArg Except.error, Except.error.inj⟩
  | .ok _, .error _ => isFalse fun h => by cases h
  | .error _, .ok _ => isFalse fun h => by cases h

theorem Except.eq_ok_of_toOption {ε α : Type} {x : Except ε α} {a : α}
    (h : x.toOption = some a) : x = .ok a := by
  cases x with
  | error e => cases h
  | ok b => exact congrArg Except.ok (Option.some.inj h)

namespace Document

/-! ## What a document gives -/

/-- The value of the first member with a name. -/
def memberNamed? (name : String) : List (Document × Document) → Option Document
  | [] => none
  | (.string (some other), value) :: rest =>
    if other = name then some value else memberNamed? name rest
  | _ :: rest => memberNamed? name rest

/-- What a document gives for the field with a name, where `names` are all fields in order: the
    member with this name, or the item in its place. -/
def given? (names : List String) (name : String) : Document → Option Document
  | .table members => memberNamed? name members
  | .array items | .tables items => (names.zip items).lookup name
  | _ => none

/-- `a` is what `read` makes of the given part, and `default` if no part is given. -/
def Given {α : Type} (read : Document → Except Fault α) (part : Option Document)
    (default a : α) : Prop :=
  match part with
  | some value => read value = .ok a
  | none => a = default

end Document

namespace Document.FieldReader

variable {σ α : Type}

/-! ## The field that a view belongs to -/

/-- What the field reads is what `get` sees afterwards. -/
def Stores (field : FieldReader σ) (read : Document → Except Fault α) (get : σ → α) : Prop :=
  ∀ value change, field.read value = .ok change → ∃ a, read value = .ok a ∧ ∀ s, get (change s) = a

/-- The field changes nothing that `get` sees. -/
def Leaves (field : FieldReader σ) (get : σ → α) : Prop :=
  ∀ value change, field.read value = .ok change → ∀ s, get (change s) = get s

theorem read_of_eq_ok {β : Type} {name : String} {read : Document → Except Fault β}
    {store : β → σ → σ} {value : Document} {change : σ → σ}
    (h : (FieldReader.of name read store).read value = .ok change) :
    ∃ b, read value = .ok b ∧ change = store b := by
  simp only [FieldReader.of] at h
  cases hread : read value with
  | error fault =>
    rw [hread] at h
    cases h
  | ok b =>
    rw [hread] at h
    cases h
    exact ⟨b, rfl, rfl⟩

theorem stores_of {name : String} {read : Document → Except Fault α} {store : α → σ → σ}
    {get : σ → α} (hget : ∀ a s, get (store a s) = a) :
    (FieldReader.of name read store).Stores read get := by
  intro value change h
  obtain ⟨a, hread, rfl⟩ := read_of_eq_ok h
  exact ⟨a, hread, hget a⟩

theorem leaves_of {β : Type} {name : String} {read : Document → Except Fault β}
    {store : β → σ → σ} {get : σ → α} (hget : ∀ b s, get (store b s) = get s) :
    (FieldReader.of name read store).Leaves get := by
  intro value change h
  obtain ⟨b, -, rfl⟩ := read_of_eq_ok h
  exact hget b

end Document.FieldReader

namespace Document

open FieldReader

variable {σ α : Type}

/-- None of the fields has this name, and all of them leave `get` alone. -/
def Apart (name : String) (get : σ → α) (fields : List (FieldReader σ)) : Prop :=
  ∀ field ∈ fields, field.name ≠ name ∧ field.Leaves get

/-- **`get` belongs to the field with this name**: that field stores what `read` reads where `get`
    sees it, and all other fields have other names and leave it alone. -/
inductive Focus (name : String) (read : Document → Except Fault α) (get : σ → α) :
    List (FieldReader σ) → Prop
  | here {field rest} (hname : field.name = name) (hstores : field.Stores read get)
    (hrest : Apart name get rest) : Focus name read get (field :: rest)
  | there {field rest} (hname : field.name ≠ name) (hleaves : field.Leaves get)
    (hrest : Focus name read get rest) : Focus name read get (field :: rest)

variable {name : String} {read : Document → Except Fault α} {get : σ → α}
  {fields : List (FieldReader σ)}

theorem apart_nil : Apart name get [] := by
  intro field hfield
  cases hfield

theorem apart_of {β : Type} {other : String} {read : Document → Except Fault β}
    {store : β → σ → σ} (hname : other ≠ name) (hget : ∀ b s, get (store b s) = get s)
    (hrest : Apart name get fields) : Apart name get (.of other read store :: fields) := by
  intro field hfield
  rcases List.mem_cons.mp hfield with rfl | hfield
  · exact ⟨hname, leaves_of hget⟩
  · exact hrest field hfield

theorem Focus.of_here {store : α → σ → σ} (hget : ∀ a s, get (store a s) = a)
    (hrest : Apart name get fields) : Focus name read get (.of name read store :: fields) :=
  .here rfl (stores_of hget) hrest

theorem Focus.of_there {β : Type} {other : String} {read' : Document → Except Fault β}
    {store : β → σ → σ} (hname : other ≠ name) (hget : ∀ b s, get (store b s) = get s)
    (hrest : Focus name read get fields) : Focus name read get (.of other read' store :: fields) :=
  .there hname (leaves_of hget) hrest

/-- The field that is found under the name stores what is read. -/
theorem Focus.stores_of_find? (h : Focus name read get fields) {field : FieldReader σ}
    (hfind : fields.find? (fun other => other.name == name) = some field) :
    field.Stores read get := by
  induction h with
  | here hname hstores _ =>
    rw [List.find?_cons, hname, beq_self_eq_true] at hfind
    cases hfind
    exact hstores
  | there hname _ _ ih =>
    rw [List.find?_cons, beq_eq_false_iff_ne.mpr hname] at hfind
    exact ih hfind

/-- There is a field under the name. -/
theorem Focus.find?_ne_none (h : Focus name read get fields) :
    fields.find? (fun other => other.name == name) ≠ none := by
  induction h with
  | here hname _ _ => simp [hname]
  | there hname _ _ ih => simpa [List.find?_cons, hname] using ih

/-- A field that is found under another name leaves alone what `get` sees. -/
theorem Focus.leaves_of_find? (h : Focus name read get fields) {other : String}
    (hne : other ≠ name) {field : FieldReader σ}
    (hfind : fields.find? (fun field => field.name == other) = some field) : field.Leaves get := by
  have hother : field.name = other := by simpa using List.find?_some hfind
  have hmem := List.mem_of_find?_eq_some hfind
  induction h with
  | here hname _ hrest =>
    rcases List.mem_cons.mp hmem with rfl | hmem
    · exact absurd (hother.symm.trans hname) hne
    · exact (hrest field hmem).2
  | there _ hleaves _ ih =>
    rcases List.mem_cons.mp hmem with rfl | hmem'
    · exact hleaves
    · rw [List.find?_cons] at hfind
      split at hfind
      · cases hfind
        exact hleaves
      · exact ih hfind hmem'

/-! ## One member -/

/-- **Reading a member.** Its name must be a text; under the name of a field that is not used up,
    the field must read its value; under any other name its text must be right. -/
theorem members_cons_eq_ok_iff {seen : List String} {record result : σ} {key value : Document}
    {rest : List (Document × Document)} :
    members fields seen record ((key, value) :: rest) = .ok result ↔
      ∃ other, key = .string (some other) ∧
        ((∃ field change, fields.find? (fun field => field.name == other) = some field ∧
            seen.contains other = false ∧ field.read value = .ok change ∧
            members fields (other :: seen) (change record) rest = .ok result) ∨
          (fields.find? (fun field => field.name == other) = none ∧ value.isWellFormed = true ∧
            members fields seen record rest = .ok result)) := by
  cases key with
  | string text =>
    cases text with
    | none => simp [members]
    | some other =>
      cases hfind : fields.find? fun field => field.name == other with
      | none =>
        cases hright : value.isWellFormed <;>
          simp [members, hfind, hright, -List.find?_eq_none]
      | some field =>
        cases hseen : seen.contains other <;>
          simp [members, hfind, hseen, -List.contains_eq_mem, -List.find?_eq_none,
            Except.bind_eq_ok_iff]
  | _ => simp [members]

/-! ## The field after a reading -/

/-- Once the name is used up, the members that follow leave alone what `get` sees. -/
theorem get_members_of_seen (h : Focus name read get fields) {seen : List String}
    {record result : σ} {found : List (Document × Document)} (hseen : seen.contains name = true)
    (hread : members fields seen record found = .ok result) : get result = get record := by
  induction found generalizing seen record with
  | nil =>
    cases hread
    rfl
  | cons member rest ih =>
    obtain ⟨key, value⟩ := member
    obtain ⟨other, -, hcases⟩ := members_cons_eq_ok_iff.mp hread
    rcases hcases with ⟨field, change, hfind, hnew, hchange, hrest⟩ | ⟨-, -, hrest⟩
    · have hne : other ≠ name := by
        rintro rfl
        rw [hseen] at hnew
        cases hnew
      rw [ih (by simpa using Or.inr (List.contains_iff_mem.mp hseen)) hrest]
      exact h.leaves_of_find? hne hfind value change hchange record
    · exact ih hseen hrest

/-- The members of a table give the field its value, or leave it as it was. -/
theorem given_members (h : Focus name read get fields) {seen : List String} {record result : σ}
    {found : List (Document × Document)} (hseen : seen.contains name = false)
    (hread : members fields seen record found = .ok result) :
    Given read (memberNamed? name found) (get record) (get result) := by
  induction found generalizing seen record with
  | nil =>
    cases hread
    exact rfl
  | cons member rest ih =>
    obtain ⟨key, value⟩ := member
    obtain ⟨other, rfl, hcases⟩ := members_cons_eq_ok_iff.mp hread
    rw [memberNamed?]
    by_cases hname : other = name
    · subst hname
      rw [if_pos rfl]
      rcases hcases with ⟨field, change, hfind, -, hchange, hrest⟩ | ⟨hfind, -, -⟩
      · -- from here on the name is used up, so what is stored now stays
        obtain ⟨a, hvalue, hstored⟩ := h.stores_of_find? hfind value change hchange
        show read value = .ok (get result)
        rw [get_members_of_seen h (by simp) hrest, hstored]
        exact hvalue
      · exact absurd hfind h.find?_ne_none
    · rw [if_neg hname]
      rcases hcases with ⟨field, change, hfind, -, hchange, hrest⟩ | ⟨-, -, hrest⟩
      · have hnext : (other :: seen).contains name = false := by
          rw [List.contains_cons, hseen, Bool.or_false, beq_eq_false_iff_ne]
          exact Ne.symm hname
        have hrest := ih hnext hrest
        rwa [h.leaves_of_find? hname hfind value change hchange record] at hrest
      · exact ih hseen hrest

/-- Items for fields that leave `get` alone leave it alone. -/
theorem get_items_of_leaves {dialect : Dialect} {record result : σ} {found : List Document}
    (h : ∀ field ∈ fields, field.Leaves get)
    (hread : items dialect fields record found = .ok result) : get result = get record := by
  induction fields generalizing record found with
  | nil =>
    cases found with
    | nil =>
      cases hread
      rfl
    | cons item rest =>
      cases dialect <;> cases hread
      rfl
  | cons field others ih =>
    cases found with
    | nil =>
      cases hread
      rfl
    | cons item rest =>
      obtain ⟨change, hchange, hrest⟩ := Except.bind_eq_ok_iff.mp hread
      rw [ih (fun other hother => h other (by simp [hother])) hrest]
      exact h field (by simp) item change hchange record

/-- The items of an array give the field the value in its place, or leave it as it was. -/
theorem given_items (h : Focus name read get fields) {dialect : Dialect} {record result : σ}
    {found : List Document} (hread : items dialect fields record found = .ok result) :
    Given read (((fields.map FieldReader.name).zip found).lookup name) (get record)
      (get result) := by
  induction h generalizing record found with
  | @here field rest hname hstores hrest =>
    cases found with
    | nil =>
      cases hread
      exact rfl
    | cons item others =>
      obtain ⟨change, hchange, hothers⟩ := Except.bind_eq_ok_iff.mp hread
      obtain ⟨a, hvalue, hstored⟩ := hstores item change hchange
      have hget := get_items_of_leaves (fun other hother => (hrest other hother).2) hothers
      rw [List.map_cons, List.zip_cons_cons, List.lookup_cons, hname, beq_self_eq_true]
      show read item = .ok (get result)
      rw [hget, hstored]
      exact hvalue
  | @there field rest hname hleaves _ ih =>
    cases found with
    | nil =>
      cases hread
      exact rfl
    | cons item others =>
      obtain ⟨change, hchange, hothers⟩ := Except.bind_eq_ok_iff.mp hread
      have hrest := ih hothers
      rw [hleaves item change hchange record] at hrest
      rw [List.map_cons, List.zip_cons_cons, List.lookup_cons,
        beq_eq_false_iff_ne.mpr (Ne.symm hname)]
      exact hrest

/-- **Where a field comes from.** After a successful reading it holds what the document gives for
    it, and its default if the document gives nothing. -/
theorem given_record (h : Focus name read get fields) {dialect : Dialect} {title : String}
    {defaults result : σ} {document : Document}
    (hread : record dialect title fields defaults document = .ok result) :
    Given read (document.given? (fields.map FieldReader.name) name) (get defaults)
      (get result) := by
  cases document with
  | table found => exact given_members h rfl hread
  | array found => exact given_items h hread
  | tables found => exact given_items h hread
  | date =>
    cases hread
    exact rfl
  | _ => cases hread

/-- The same for a field of a record that is itself a part of a document. -/
theorem given_bind (h : Focus name read get fields) {dialect : Dialect} {title : String}
    {defaults result : σ} {part : Option Document}
    (hpart : Given (record dialect title fields defaults) part defaults result) :
    Given read (part.bind (given? (fields.map FieldReader.name) name)) (get defaults)
      (get result) := by
  cases part with
  | none => exact congrArg get hpart
  | some document => exact given_record h hpart

end Document

end Ramp
