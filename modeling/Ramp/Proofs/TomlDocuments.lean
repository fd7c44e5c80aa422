import Ramp.Proofs.Readers
import Ramp.Toml.Read

/-!
# `Proofs.TomlDocuments` — what a TOML text can say

Whatever text is read, the document that comes out holds integers of 64 bits, names that are texts,
and nothing that is broken or null (`isToml_of_read`). The readers are followed from the inside out:
what holds of all that a reader takes (`Reader.Yields`) goes through chains, alternatives and
repetitions of readers, up to `yields_value`. The statements of a text then change a table that
grows, and `Entries.IsToml` is what each of them keeps.

## Contents
- `Document.IsToml`, with `isWellFormed_of_isToml`.
- `yields_value`: values with containers nested in them.
- `Entries.IsToml`, with `isToml_descend`: what a statement keeps; `isToml_add`.
- `isToml_of_read`: the main result.
-/

namespace Ramp

/-- **A document that TOML can hold**: integers have 64 bits and names are texts. -/
inductive Document.IsToml : Document → Prop where
  | boolean (value : Bool) : IsToml (.boolean value)
  | integer {value : Int} (hlow : Int64.minValue.toInt ≤ value)
      (hhigh : value ≤ Int64.maxValue.toInt) : IsToml (.integer value)
  | real (shown : String) : IsToml (.real (some shown))
  | string (text : String) : IsToml (.string (some text))
  | date : IsToml .date
  | array {items : List Document} (h : ∀ item ∈ items, IsToml item) : IsToml (.array items)
  | tables {items : List Document} (h : ∀ item ∈ items, IsToml item) : IsToml (.tables items)
  | table {members : List (Document × Document)}
      (hname : ∀ member ∈ members, ∃ name, member.1 = .string (some name))
      (hvalue : ∀ member ∈ members, IsToml member.2) : IsToml (.table members)

namespace Document

theorem areWellFormed_iff {items : List Document} :
    areWellFormed items = true ↔ ∀ item ∈ items, item.isWellFormed = true := by
  induction items with
  | nil => simp [areWellFormed]
  | cons item rest ih => simp [areWellFormed, ih]

theorem haveWellFormed_iff {members : List (Document × Document)} :
    haveWellFormed members = true ↔
      ∀ member ∈ members, member.1.isWellFormed = true ∧ member.2.isWellFormed = true := by
  induction members with
  | nil => simp [haveWellFormed]
  | cons member rest ih =>
    obtain ⟨name, value⟩ := member
    simp [haveWellFormed, isWellFormedMember, ih]

/-- What TOML can hold is right to its end. -/
theorem isWellFormed_of_isToml {document : Document} (h : document.IsToml) :
    document.isWellFormed = true := by
  induction h with
  | array _ ih => exact areWellFormed_iff.mpr ih
  | tables _ ih => exact areWellFormed_iff.mpr ih
  | table hname _ ih =>
    refine haveWellFormed_iff.mpr fun member hmember => ⟨?_, ih member hmember⟩
    obtain ⟨name, hname⟩ := hname member hmember
    rw [hname, isWellFormed]
    all_goals simp
  | _ => rfl

end Document

namespace Toml

open Reader

/-! ## Tables that grow -/

/-- What a name in a table stands for is something that TOML can hold. -/
inductive Node.IsToml : Node → Prop where
  | value {document : Document} (h : document.IsToml) : IsToml (.value document)
  | table {origin : Origin} {entries : List (String × Node)}
      (h : ∀ entry ∈ entries, IsToml entry.2) : IsToml (.table origin entries)
  | tables {earlier : List Document} {latest : List (String × Node)}
      (hearlier : ∀ document ∈ earlier, document.IsToml)
      (hlatest : ∀ entry ∈ latest, IsToml entry.2) : IsToml (.tables earlier latest)

/-- All that a table holds is something that TOML can hold. -/
def Entries.IsToml (entries : Entries) : Prop :=
  ∀ entry ∈ entries, entry.2.IsToml

namespace Node

theorem toMembers_eq (entries : List (String × Node)) :
    toMembers entries =
      entries.map fun entry => (.string (some entry.1), toDocument entry.2) := by
  induction entries with
  | nil => rfl
  | cons entry rest ih => rw [toMembers, ih, List.map_cons, toMember]

theorem isToml_table {entries : List (String × Node)}
    (h : ∀ entry ∈ entries, entry.2.toDocument.IsToml) :
    (Document.table (toMembers entries)).IsToml := by
  rw [toMembers_eq]
  refine .table (fun member hmember => ?_) fun member hmember => ?_
  · obtain ⟨entry, -, rfl⟩ := List.mem_map.mp hmember
    exact ⟨entry.1, rfl⟩
  · obtain ⟨entry, hentry, rfl⟩ := List.mem_map.mp hmember
    exact h entry hentry

theorem isToml_toDocument {node : Node} (h : node.IsToml) : node.toDocument.IsToml := by
  induction h with
  | value h => exact h
  | table _ ih => exact isToml_table ih
  | tables hearlier _ ih =>
    refine .tables fun document hdocument => ?_
    rcases List.mem_append.mp hdocument with hdocument | hdocument
    · exact hearlier document hdocument
    · rw [List.mem_singleton.mp hdocument]
      exact isToml_table ih

end Node

namespace Entries

variable {entries result : Entries}

theorem isToml_nil : IsToml [] := by
  intro entry hentry
  cases hentry

theorem isToml_toDocument (h : entries.IsToml) : entries.toDocument.IsToml :=
  Node.isToml_table fun entry hentry => Node.isToml_toDocument (h entry hentry)

/-- A change to what one name stands for keeps a table to TOML if it keeps that to it. -/
theorem isToml_alter {name : String} {change : Option Node → Option Node} (h : entries.IsToml)
    (hchange : ∀ found next, (∀ node, found = some node → node.IsToml) →
      change found = some next → next.IsToml)
    (hresult : entries.alter name change = some result) : result.IsToml := by
  induction entries generalizing result with
  | nil =>
    obtain ⟨next, hnext, rfl⟩ := Option.map_eq_some_iff.mp hresult
    intro entry hentry
    rw [List.mem_singleton.mp hentry]
    exact hchange none next (by simp) hnext
  | cons entry rest ih =>
    obtain ⟨other, node⟩ := entry
    obtain ⟨hnode, hrest⟩ := List.forall_mem_cons.mp h
    rw [alter] at hresult
    split at hresult
    · obtain ⟨next, hnext, rfl⟩ := Option.map_eq_some_iff.mp hresult
      refine List.forall_mem_cons.mpr ⟨hchange (some node) next ?_ hnext, hrest⟩
      rintro _ ⟨⟩
      exact hnode
    · obtain ⟨altered, haltered, rfl⟩ := Option.map_eq_some_iff.mp hresult
      exact List.forall_mem_cons.mpr ⟨hnode, ih hrest haltered⟩

/-- A change at the end of a path keeps a table to TOML if it keeps the table there to it. -/
theorem isToml_descend {change : Origin → Entries → Option Entries} {made : Origin}
    (hchange : ∀ origin below after, Entries.IsToml below → change origin below = some after →
      Entries.IsToml after)
    {path : List String} {origin : Origin} (h : entries.IsToml)
    (hresult : entries.descend change made path origin = some result) : result.IsToml := by
  induction path generalizing entries result origin with
  | nil => exact hchange origin entries result h hresult
  | cons name path ih =>
    refine isToml_alter h (fun found next hfound hnext => ?_) hresult
    cases found with
    | none =>
      obtain ⟨below, hbelow, rfl⟩ := Option.map_eq_some_iff.mp hnext
      exact .table (ih isToml_nil hbelow)
    | some node =>
      cases hfound node rfl with
      | value _ => cases hnext
      | table hentries =>
        simp only at hnext
        split at hnext
        · cases hnext
        · obtain ⟨below, hbelow, rfl⟩ := Option.map_eq_some_iff.mp hnext
          exact .table (ih hentries hbelow)
      | tables hearlier hlatest =>
        obtain ⟨below, hbelow, rfl⟩ := Option.map_eq_some_iff.mp hnext
        exact .tables hearlier (ih hlatest hbelow)

theorem isToml_assign {path : List String} {name : String} {value : Document}
    (hvalue : value.IsToml) (h : entries.IsToml)
    (hresult : entries.assign path name value = some result) : result.IsToml := by
  refine isToml_descend (fun origin below after hbelow hafter => ?_) h hresult
  split at hafter
  · refine isToml_alter hbelow (fun found next _ hnext => ?_) hafter
    cases found with
    | none =>
      cases hnext
      exact .value hvalue
    | some node => cases hnext
  · cases hafter

/-- A name that is looked up stands for something that TOML can hold. -/
theorem isToml_of_lookup {name : String} {node : Node} (h : entries.IsToml)
    (hnode : entries.lookup name = some node) : node.IsToml := by
  obtain ⟨before, after, rfl, -⟩ := List.lookup_eq_some_iff.mp hnode
  exact h (name, node) (by simp)

theorem isToml_openTable {path : List String} {name : String} (h : entries.IsToml)
    (hresult : entries.openTable path name = some result) : result.IsToml := by
  refine isToml_descend (fun origin below after hbelow hafter => ?_) h hresult
  split at hafter
  · cases hafter
    exact List.forall_mem_append.mpr
      ⟨hbelow, List.forall_mem_singleton.mpr (.table (by simp))⟩
  · next held hheld =>
    cases hafter
    have hkept : ∀ entry ∈ below.filter (fun entry => entry.1 != name), entry.2.IsToml :=
      fun entry hentry => hbelow entry (List.mem_filter.mp hentry).1
    cases isToml_of_lookup hbelow hheld with
    | table hentries =>
      exact List.forall_mem_append.mpr ⟨hkept, List.forall_mem_singleton.mpr (.table hentries)⟩
  · cases hafter

theorem isToml_openItem {path : List String} {name : String} (h : entries.IsToml)
    (hresult : entries.openItem path name = some result) : result.IsToml := by
  refine isToml_descend (fun origin below after hbelow hafter => ?_) h hresult
  refine isToml_alter hbelow (fun found next hfound hnext => ?_) hafter
  cases found with
  | none =>
    cases hnext
    exact .tables (by simp) (by simp)
  | some node =>
    cases hfound node rfl with
    | value _ => cases hnext
    | table _ => cases hnext
    | tables hearlier hlatest =>
      cases hnext
      refine .tables (List.forall_mem_append.mpr ⟨hearlier, ?_⟩) (by simp)
      exact List.forall_mem_singleton.mpr (isToml_toDocument hlatest)

end Entries

/-- What every step of a chain keeps holds at its end. -/
theorem of_foldlM_eq_some {α β : Type} {P : β → Prop} {step : β → α → Option β} {found : List α}
    {first last : β} (h : P first)
    (hstep : ∀ b, ∀ a ∈ found, ∀ next, P b → step b a = some next → P next)
    (hlast : found.foldlM step first = some last) : P last := by
  induction found generalizing first with
  | nil =>
    cases hlast
    exact h
  | cons a rest ih =>
    rw [List.foldlM_cons] at hlast
    obtain ⟨next, hnext, hlast⟩ := Option.bind_eq_some_iff.mp hlast
    exact ih (hstep first a (by simp) next h hnext)
      (fun b other hother => hstep b other (by simp [hother])) hlast

/-! ## Values -/

/-- An integer is read only if it has 64 bits. -/
theorem yields_bounded (n : Int) : Yields Document.IsToml (bounded n) := by
  unfold bounded
  split
  · next h => exact yields_pure (.integer h.1 h.2)
  · exact yields_failure

theorem yields_based (start : String) (base : Nat) : Yields Document.IsToml (based start base) :=
  yields_seq fun _ => yields_seq fun _ => yields_bounded _

theorem yields_decimal : Yields Document.IsToml decimal :=
  yields_seq fun _ => yields_seq fun _ => yields_bounded _

theorem yields_integer : Yields Document.IsToml integer :=
  yields_orElse (yields_based _ _) <| yields_orElse (yields_based _ _) <|
    yields_orElse (yields_based _ _) yields_decimal

theorem yields_finite : Yields Document.IsToml finite := by
  refine yields_seq fun isNegative => yields_seq fun whole => yields_seq fun fraction => ?_
  -- how the exponent is read goes by whether there is a fraction, what follows does not
  refine yields_ite (yields_seq fun power => ?_) (yields_seq fun power => ?_)
  all_goals
    dsimp only
    split
    · exact yields_pure (.real _)
    · exact yields_ite (yields_pure (.real _)) yields_failure

theorem yields_special : Yields Document.IsToml special := by
  refine yields_seq fun isNegative => yields_orElse (yields_seq fun _ => ?_) ?_
  · exact yields_pure (.real _)
  · exact yields_seq fun _ => yields_pure (.real _)

theorem yields_boolean : Yields Document.IsToml boolean :=
  yields_orElse (yields_seq fun _ => yields_pure (.boolean true))
    (yields_seq fun _ => yields_pure (.boolean false))

theorem yields_scalar : Yields Document.IsToml scalar := by
  refine yields_orElse (yields_seq fun text => yields_pure (.string text)) ?_
  refine yields_orElse yields_boolean <| yields_orElse (yields_seq fun _ => yields_pure .date) ?_
  exact yields_orElse (yields_orElse yields_finite yields_special) yields_integer

theorem yields_array {value : Reader Document} (h : Yields Document.IsToml value) :
    Yields Document.IsToml (array value) := by
  have hitem : Yields Document.IsToml (do filler; let item ← value; filler; return item) :=
    yields_seq fun _ => yields_bind h fun item hitem => yields_seq fun _ => yields_pure hitem
  refine yields_seq fun _ => yields_seq fun _ => ?_
  refine yields_bind (Q := fun items => ∀ item ∈ items, item.IsToml) ?_ fun items hitems => ?_
  · refine yields_orElse (yields_bind hitem fun first hfirst => ?_) (yields_pure (by simp))
    refine yields_bind (yields_many (yields_seq fun _ => hitem)) fun rest hrest => ?_
    exact yields_seq fun _ => yields_pure (List.forall_mem_cons.mpr ⟨hfirst, hrest⟩)
  · exact yields_seq fun _ => yields_seq fun _ => yields_pure (.array hitems)

theorem yields_assignment {value : Reader Document} (h : Yields Document.IsToml value) :
    Yields (fun assigned => assigned.2.2.IsToml) (assignment value) :=
  yields_seq fun _ => yields_seq fun _ => yields_seq fun _ =>
    yields_bind h fun _ hvalue => yields_pure hvalue

theorem yields_braces {value : Reader Document} (h : Yields Document.IsToml value) :
    Yields Document.IsToml (braces value) := by
  have hmember : Yields (fun assigned => assigned.2.2.IsToml)
      (do let member ← assignment value; gap; return member) :=
    yields_bind (yields_assignment h) fun member hmember =>
      yields_seq fun _ => yields_pure hmember
  refine yields_seq fun _ => ?_
  refine yields_bind (Q := fun members => ∀ assigned ∈ members, assigned.2.2.IsToml) ?_
    fun members hmembers => ?_
  · refine yields_orElse (yields_bind hmember fun first hfirst => ?_) (yields_pure (by simp))
    refine yields_bind (yields_many (yields_seq fun _ => hmember)) fun rest hrest => ?_
    exact yields_pure (List.forall_mem_cons.mpr ⟨hfirst, hrest⟩)
  · refine yields_seq fun _ => yields_seq fun _ => ?_
    refine yields_bind (yields_foldlM Entries.isToml_nil fun before member hmember hbefore => ?_)
      fun entries hentries => yields_pure (Entries.isToml_toDocument hentries)
    exact yields_lift fun after hafter =>
      Entries.isToml_assign (hmembers member hmember) hbefore hafter

/-- **Every value is something that TOML can hold**, however deep it is nested. -/
theorem yields_value (limit : Nat) : Yields Document.IsToml (value limit) := by
  induction limit with
  | zero => exact yields_scalar
  | succ limit ih =>
    exact yields_orElse yields_scalar (yields_orElse (yields_array ih) (yields_braces ih))

/-! ## Statements -/

/-- What a statement gives to a name is something that TOML can hold. -/
def Statement.IsToml : Statement → Prop
  | .assign _ _ value => value.IsToml
  | .blank | .openTable _ _ | .openItem _ _ => True

theorem yields_statement : Yields Statement.IsToml statement := by
  refine yields_seq fun _ => yields_orElse ?_ <| yields_orElse ?_ <| yields_orElse ?_ <|
    yields_orElse ?_ ?_
  · exact yields_seq fun _ => yields_pure trivial
  · exact yields_seq fun _ => yields_seq fun _ => yields_pure trivial
  · exact yields_seq fun _ => yields_seq fun _ => yields_seq fun _ => yields_seq fun _ =>
      yields_pure trivial
  · exact yields_seq fun _ => yields_seq fun _ => yields_seq fun _ => yields_seq fun _ =>
      yields_pure trivial
  · refine yields_bind (yields_assignment (yields_value _)) fun assigned hassigned => ?_
    exact yields_seq fun _ => yields_pure hassigned

theorem yields_statements :
    Yields (fun found => ∀ statement ∈ found, statement.IsToml) statements :=
  yields_bind (yields_many yields_statement) fun _ hfound =>
    yields_seq fun _ => yields_seq fun _ => yields_pure hfound

/-- **A statement keeps a document to TOML.** -/
theorem isToml_add {draft next : Draft} {statement : Statement} (h : draft.entries.IsToml)
    (hstatement : statement.IsToml) (hnext : draft.add statement = some next) :
    next.entries.IsToml := by
  cases statement with
  | blank =>
    cases hnext
    exact h
  | assign path name value =>
    obtain ⟨entries, hentries, hnext⟩ := Option.bind_eq_some_iff.mp hnext
    cases hnext
    exact Entries.isToml_descend (fun _ _ _ hbelow hafter =>
      Entries.isToml_assign hstatement hbelow hafter) h hentries
  | openTable path name =>
    obtain ⟨entries, hentries, hnext⟩ := Option.bind_eq_some_iff.mp hnext
    cases hnext
    exact Entries.isToml_openTable h hentries
  | openItem path name =>
    obtain ⟨entries, hentries, hnext⟩ := Option.bind_eq_some_iff.mp hnext
    cases hnext
    exact Entries.isToml_openItem h hentries

/-! ## Main result -/

/-- **The document of a text is one that TOML can hold.** -/
theorem isToml_of_read {s : String} {document : Document} (h : read s = some document) :
    document.IsToml := by
  obtain ⟨⟨found, rest⟩, hfound, h⟩ := Option.bind_eq_some_iff.mp h
  obtain ⟨draft, hdraft, h⟩ := Option.bind_eq_some_iff.mp h
  cases h
  have hstatements := yields_statements _ _ _ hfound
  apply Entries.isToml_toDocument
  refine of_foldlM_eq_some (P := fun draft => draft.entries.IsToml) Entries.isToml_nil
    (fun before statement hstatement next hbefore hnext => ?_) hdraft
  exact isToml_add hbefore (hstatements statement hstatement) hnext

end Toml

end Ramp
