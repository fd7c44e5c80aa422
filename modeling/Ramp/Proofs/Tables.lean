import Ramp.Proofs.SettingsText
import Ramp.Proofs.TomlDocuments

/-!
# `Proofs.Tables` — records from tables

A table in which no name comes twice is a set of named values. A record is read from it exactly
when each value is read that has a field, whatever the order is and whatever else is there: while
members are read, no name to come is used up (`exists_members_iff`). The values are scalars, and
what a reader takes of them is a kind, whose values are told without the reader (`Kind.Admits`).

## Contents
- `Document.Has`, `IsTable` and `IsScalar`: tables as sets of named values.
- `exists_members_iff`, and `exists_record_iff`: when a record is read.
- `Kind`, with `Kind.Admits`.
- `Takes`, with `takes_choice` and its siblings: what each reader makes of a kind.
-/

namespace Ramp

namespace Document

/-! ## Tables -/

/-- A table holds a value under a name. -/
def Has (document : Document) (name : String) (value : Document) : Prop :=
  ∃ members, document = .table members ∧ (.string (some name), value) ∈ members

/-- **A table of named values in which no name comes twice.** -/
def IsTable (document : Document) : Prop :=
  ∃ named, document = Config.namedTable named ∧ (named.map Prod.fst).Nodup

/-- A value that holds no others. -/
def IsScalar : Document → Prop
  | .broken | .array _ | .tables _ | .table _ => False
  | .null | .boolean _ | .integer _ | .real _ | .string _ | .date => True

variable {σ α : Type} {document value : Document} {name : String}
  {named : List (String × Document)}

theorem has_namedTable_iff :
    (Config.namedTable named).Has name value ↔ (name, value) ∈ named := by
  constructor
  · rintro ⟨members, hmembers, hmem⟩
    cases hmembers
    obtain ⟨⟨other, found⟩, hfound, h⟩ := List.mem_map.mp hmem
    cases h
    exact hfound
  · intro h
    exact ⟨_, rfl, List.mem_map.mpr ⟨(name, value), h, rfl⟩⟩

/-- The first member with a name is the only one. -/
theorem memberNamed?_eq_some_iff (hnodup : (named.map Prod.fst).Nodup) :
    memberNamed? name (named.map fun member => (.string (some member.1), member.2)) = some value ↔
      (name, value) ∈ named := by
  induction named with
  | nil => simp [memberNamed?]
  | cons member rest ih =>
    obtain ⟨other, found⟩ := member
    rw [List.map_cons, List.nodup_cons] at hnodup
    obtain ⟨hfresh, hnodup⟩ := hnodup
    rw [List.map_cons, memberNamed?, List.mem_cons]
    by_cases hname : other = name
    · subst hname
      have habsent : (other, value) ∉ rest := fun h => hfresh (List.mem_map.mpr ⟨_, h, rfl⟩)
      simp [habsent, eq_comm]
    · rw [if_neg hname, ih hnodup]
      simp [Ne.symm hname]

/-- What a table gives for a field is what it holds under its name. -/
theorem given?_eq_some_iff (h : document.IsTable) {names : List String} :
    document.given? names name = some value ↔ document.Has name value := by
  obtain ⟨named, rfl, hnodup⟩ := h
  rw [has_namedTable_iff, ← memberNamed?_eq_some_iff hnodup]
  rfl

/-- What a right text holds is right. -/
theorem isWellFormed_of_has (h : document.isWellFormed = true) (hvalue : document.Has name value) :
    value.isWellFormed = true := by
  obtain ⟨members, rfl, hmem⟩ := hvalue
  exact (haveWellFormed_iff.mp h _ hmem).2

/-- What a document of TOML holds is one. -/
theorem isToml_of_has (h : document.IsToml) (hvalue : document.Has name value) :
    value.IsToml := by
  obtain ⟨members, rfl, hmem⟩ := hvalue
  cases h with
  | table _ hvalues => exact hvalues _ hmem

/-! ## Records -/

section Record

variable {fields : List (FieldReader σ)}

/-- The fields that are found by their names are all of them, if their names differ. -/
theorem find?_name_eq_some_iff (hnames : (fields.map FieldReader.name).Nodup)
    {field : FieldReader σ} :
    fields.find? (fun other => other.name == name) = some field ↔
      field ∈ fields ∧ field.name = name := by
  constructor
  · intro h
    exact ⟨List.mem_of_find?_eq_some h, by simpa using List.find?_some h⟩
  · rintro ⟨hmem, rfl⟩
    induction fields with
    | nil => cases hmem
    | cons first rest ih =>
      rw [List.map_cons, List.nodup_cons] at hnames
      rcases List.mem_cons.mp hmem with rfl | hmem
      · simp
      · have hne : first.name ≠ field.name := fun h =>
          hnames.1 (h ▸ List.mem_map.mpr ⟨field, hmem, rfl⟩)
        rw [List.find?_cons, beq_eq_false_iff_ne.mpr hne]
        exact ih hnames.2 hmem

/-- **Members are read when those are that have a field**, in any order. -/
theorem exists_members_iff (seen : List String) (record : σ)
    (hnodup : (named.map Prod.fst).Nodup) (hnew : ∀ member ∈ named, seen.contains member.1 = false)
    (hright : ∀ member ∈ named, member.2.isWellFormed = true) :
    (∃ result, members fields seen record
        (named.map fun member => (.string (some member.1), member.2)) = .ok result) ↔
      ∀ member ∈ named, ∀ field,
        fields.find? (fun field => field.name == member.1) = some field →
          ∃ change, field.read member.2 = .ok change := by
  -- the invariant is that no name to come is used up
  induction named generalizing seen record with
  | nil => simp [members]
  | cons member rest ih =>
    obtain ⟨name, value⟩ := member
    rw [List.map_cons, List.nodup_cons] at hnodup
    obtain ⟨hfresh, hnodup⟩ := hnodup
    obtain ⟨hname, hnew⟩ := List.forall_mem_cons.mp hnew
    obtain ⟨hvalue, hright⟩ := List.forall_mem_cons.mp hright
    simp only [List.map_cons, members_cons_eq_ok_iff, List.forall_mem_cons]
    have hnext : ∀ member ∈ rest, (name :: seen).contains member.1 = false := by
      intro member hmember
      have hne : member.1 ≠ name := by
        rintro rfl
        exact hfresh (List.mem_map.mpr ⟨member, hmember, rfl⟩)
      rw [List.contains_cons, hnew member hmember, Bool.or_false, beq_eq_false_iff_ne]
      exact hne
    cases hfind : fields.find? fun field => field.name == name with
    | none =>
      rw [← ih seen record hnodup hnew hright]
      constructor
      · rintro ⟨result, other, hother, h⟩
        cases hother
        rcases h with ⟨field, change, hfield, -⟩ | ⟨-, -, hrest⟩
        · cases hfield.symm.trans hfind
        · refine ⟨?_, result, hrest⟩
          rintro _ ⟨⟩
      · rintro ⟨-, result, hrest⟩
        exact ⟨result, name, rfl, Or.inr ⟨hfind, hvalue, hrest⟩⟩
    | some field =>
      constructor
      · rintro ⟨result, other, hother, h⟩
        cases hother
        rcases h with ⟨found, change, hfield, -, hchange, hrest⟩ | ⟨hnone, -, -⟩
        · cases hfield.symm.trans hfind
          refine ⟨?_, (ih _ _ hnodup hnext hright).mp ⟨result, hrest⟩⟩
          rintro _ ⟨⟩
          exact ⟨change, hchange⟩
        · cases hnone.symm.trans hfind
      · rintro ⟨hread, hrest⟩
        obtain ⟨change, hchange⟩ := hread field rfl
        obtain ⟨result, hresult⟩ := (ih _ (change record) hnodup hnext hright).mpr hrest
        exact ⟨result, name, rfl, Or.inl ⟨field, change, hfind, hname, hchange, hresult⟩⟩

/-- **A record is read when each of its fields is** that the table holds. -/
theorem exists_record_iff (hnames : (fields.map FieldReader.name).Nodup) (h : document.IsTable)
    (hright : document.isWellFormed = true) {dialect : Dialect} {title : String} {defaults : σ} :
    (∃ result, record dialect title fields defaults document = .ok result) ↔
      ∀ field ∈ fields, ∀ value, document.Has field.name value →
        ∃ change, field.read value = .ok change := by
  obtain ⟨named, rfl, hnodup⟩ := h
  have hvalues : ∀ member ∈ named, member.2.isWellFormed = true := fun member hmember =>
    isWellFormed_of_has hright (has_namedTable_iff.mpr hmember)
  simp only [has_namedTable_iff]
  refine (exists_members_iff [] defaults hnodup (fun _ _ => List.contains_nil) hvalues).trans
    ⟨fun hread field hfield value hvalue => ?_, fun hread member hmember field hfind => ?_⟩
  · exact hread (field.name, value) hvalue field
      ((find?_name_eq_some_iff hnames).mpr ⟨hfield, rfl⟩)
  · obtain ⟨hfield, hname⟩ := (find?_name_eq_some_iff hnames).mp hfind
    exact hread field hfield member.2 (hname ▸ hmember)

/-- A field is read when its value is. -/
theorem exists_read_of {read : Document → Except Fault α} {store : α → σ → σ} :
    (∃ change, (FieldReader.of name read store).read value = .ok change) ↔
      ∃ a, read value = .ok a := by
  constructor
  · rintro ⟨change, h⟩
    obtain ⟨a, ha, -⟩ := FieldReader.read_of_eq_ok h
    exact ⟨a, ha⟩
  · rintro ⟨a, h⟩
    refine ⟨store a, ?_⟩
    simp only [FieldReader.of, h]
    rfl

end Record

end Document

/-! ## Kinds of values -/

/-- What a field takes. -/
inductive Kind where
  /-- One of some names. -/
  | choice (names : List String)
  | signed
  | count
  | text
  | flag

/-- The greatest count that can be given. -/
def Dialect.greatestCount : Dialect → Int
  | .toml => 9223372036854775807
  | .json => 18446744073709551615

/-- **The values of a kind.** -/
def Kind.Admits (dialect : Dialect) : Kind → Document → Prop
  | .choice names, .string (some name) => name ∈ names
  | .signed, .integer n => -9223372036854775808 ≤ n ∧ n ≤ 9223372036854775807
  | .count, .integer n => 0 ≤ n ∧ n ≤ dialect.greatestCount
  | .text, .string (some _) => True
  | .flag, .boolean _ => True
  | _, _ => False

namespace Document

/-- A scalar that a language can hold. -/
structure Fits (dialect : Dialect) (value : Document) : Prop where
  isScalar : value.IsScalar
  isToml : dialect = .toml → value.IsToml

/-- **A reader takes the values of a kind**, and what it makes of them shows them again. -/
structure Takes {α : Type} (dialect : Dialect) (kind : Kind) (read : Document → Except Fault α)
    (shown : α → Document) : Prop where
  admits : ∀ value, value.Fits dialect → ((∃ a, read value = .ok a) ↔ kind.Admits dialect value)
  shows : ∀ value a, value.IsScalar → read value = .ok a → shown a = value

theorem takes_choice (α : Type) [Named α] (dialect : Dialect) :
    Takes dialect (.choice (Named.names α)) (choice α dialect) Config.nameDocument := by
  have hmember : ∀ name, choice α dialect (.string (some name)) = member α name := by
    cases dialect <;> exact fun _ => rfl
  refine ⟨fun value h => ?_, fun value a h hread => ?_⟩
  · have hscalar := h.isScalar
    cases value with
    | string text =>
      cases text with
      | none => cases dialect <;> simp [choice, choiceToml, choiceJson, Kind.Admits]
      | some name =>
        rw [hmember, Kind.Admits, ← Named.isSome_ofName?_iff]
        unfold member
        cases Named.ofName? (α := α) name <;> simp
    | broken | array _ | tables _ | table _ => exact absurd hscalar id
    | _ => cases dialect <;> simp [choice, choiceToml, choiceJson, Kind.Admits]
  · cases value with
    | string text =>
      cases text with
      | none => cases dialect <;> cases hread
      | some name =>
        rw [hmember] at hread
        unfold member at hread
        split at hread
        · next b hb =>
          cases hread
          rw [Config.nameDocument, Named.ofName?_eq_some_iff.mp hb]
        · cases hread
    | broken | array _ | tables _ | table _ => exact absurd h id
    | _ => cases dialect <;> cases hread

theorem takes_start (dialect : Dialect) :
    Takes dialect .signed start fun n => .integer n.toInt := by
  have hmin : Int64.minValue.toInt = -9223372036854775808 := rfl
  have hmax : Int64.maxValue.toInt = 9223372036854775807 := rfl
  refine ⟨fun value h => ?_, fun value a h hread => ?_⟩
  · cases value with
    | integer n =>
      rw [Kind.Admits, start, hmin, hmax]
      split <;> simp_all
    | _ => simp [start, Kind.Admits]
  · cases value with
    | integer n =>
      rw [start] at hread
      split at hread
      · next hfits =>
        cases hread
        rw [Int64.toInt_ofInt_of_le hfits.1 (by omega)]
      · cases hread
    | _ => cases hread

theorem takes_count (dialect : Dialect) :
    Takes dialect .count count fun n => .integer n.toNat := by
  have hsize : (UInt64.size : Int) = 18446744073709551616 := rfl
  refine ⟨fun value h => ?_, fun value a h hread => ?_⟩
  · cases value with
    | integer n =>
      -- TOML has no integers between the greatest count that it can give and the greatest there is
      have hbound : n < UInt64.size ↔ n ≤ dialect.greatestCount := by
        cases dialect with
        | toml =>
          have hmax : Int64.maxValue.toInt = 9223372036854775807 := rfl
          cases h.isToml rfl with
          | integer _ hhigh =>
            rw [Dialect.greatestCount]
            omega
        | json =>
          rw [Dialect.greatestCount]
          omega
      rw [Kind.Admits, count, ← hbound]
      split <;> simp_all
    | _ => simp [count, Kind.Admits]
  · cases value with
    | integer n =>
      rw [count] at hread
      split at hread
      · next hfits =>
        cases hread
        have hnat : n.toNat < UInt64.size := by omega
        rw [UInt64.toNat_ofNat_of_lt' hnat, Int.toNat_of_nonneg hfits.1]
      · cases hread
    | _ => cases hread

theorem takes_text (dialect : Dialect) : Takes dialect .text text fun s => .string (some s) := by
  refine ⟨fun value h => ?_, fun value a h hread => ?_⟩
  · cases value with
    | string text => cases text <;> simp [Document.text, Kind.Admits]
    | _ => simp [text, Kind.Admits]
  · cases value with
    | string text =>
      cases text with
      | none => cases hread
      | some s =>
        cases hread
        rfl
    | _ => cases hread

theorem takes_flag (dialect : Dialect) : Takes dialect .flag flag .boolean := by
  refine ⟨fun value h => ?_, fun value a h hread => ?_⟩
  · cases value <;> simp [flag, Kind.Admits]
  · cases value with
    | boolean b =>
      cases hread
      rfl
    | _ => cases hread

end Document

end Ramp
