import Ramp.Proofs.Run

/-!
# `Proofs.Filling` — filling a buffer succeeds exactly when it fits, and all at once or not at all

The check before the first write asks for the last value only; the writes go up one step at a time.
`getElem?_run` ties the two, so success is exactly "the last value fits", what is written is exactly
`start + i` at index `i`, and a refusal leaves every element as it was, whatever was in the buffer.

## Contents
- `Buffer.IsFilling`: what a caller may rely on.
- `fill_of_refuse?_eq_none`, `fill_of_refuse?_eq_some`: the two ways a filling ends.
- `isFilling_fill`: every filling, from any start and from zero, is one.
-/

namespace Ramp.Buffer

open ElementType Value

variable {ty : ElementType}

/-- **What a filling does.** Filling the buffer `before` with the integers from `start` on answers
    `result` and leaves the buffer `after`. -/
structure IsFilling (start : Int) (before : Buffer ty) (result : Except Overflow Unit)
    (after : Buffer ty) : Prop where
  /-- It succeeds exactly when there is nothing to write or the last value fits. -/
  ok_iff : result = .ok () ↔
    before.length = 0 ∨ start + ((before.length : Int) - 1) ≤ ty.greatest
  /-- Success keeps the length. -/
  length_eq : result = .ok () → after.length = before.length
  /-- Success puts the integer `start + i` at index `i`. -/
  getElem?_eq : result = .ok () → ∀ i < before.length,
    (after[i]?).map Value.toInt = some (start + i)
  /-- With nothing to write nothing happens, whatever `start` is. -/
  of_empty : before.length = 0 → result = .ok () ∧ after = before
  /-- Otherwise the type, the first value and the length are reported, and nothing has changed. -/
  of_refused : result ≠ .ok () →
    result = .error ⟨ty, start.repr, before.length⟩ ∧ after = before

/-! ## The two ways a filling ends -/

theorem fill_of_refuse?_eq_none {start : Value ty} {buf : Buffer ty}
    (h : refuse? start buf.length = none) : fill start buf = (.ok (), start.run buf.length) := by
  rw [fill, h, overwrite_eq_run]

theorem fill_of_refuse?_eq_some {start : Value ty} {buf : Buffer ty} {report : Overflow}
    (h : refuse? start buf.length = some report) :
    fill start buf = (.error ⟨ty, start.toInt.repr, buf.length⟩, buf) := by
  rw [fill, h, eq_of_refuse?_eq_some h]

/-- A run that fits, written over the buffer, is a filling. -/
theorem isFilling_of_fits {start : Value ty} {buf : Buffer ty}
    (hfits : buf.length = 0 ∨ start.toInt + ((buf.length : Int) - 1) ≤ ty.greatest) :
    IsFilling start.toInt buf (.ok ()) (start.run buf.length) := by
  refine ⟨⟨fun _ => hfits, fun _ => rfl⟩, fun _ => length_run start buf.length, ?_, ?_, ?_⟩
  · intro _ i hi
    -- a buffer with an index `i` is not empty, so it is the last value that fits
    rcases hfits with hempty | hlast
    · omega
    · exact getElem?_run hlast hi
  · intro hempty
    refine ⟨rfl, ?_⟩
    rw [hempty, run_zero, List.eq_nil_of_length_eq_zero hempty]
  · intro hne
    exact absurd rfl hne

/-- A report with the buffer left alone is a filling if the run does not fit. -/
theorem isFilling_of_not_fits {start : Value ty} {buf : Buffer ty}
    (hfits : ¬ (buf.length = 0 ∨ start.toInt + ((buf.length : Int) - 1) ≤ ty.greatest)) :
    IsFilling start.toInt buf (.error ⟨ty, start.toInt.repr, buf.length⟩) buf := by
  refine ⟨⟨fun hok => ?_, fun hyes => absurd hyes hfits⟩, fun hok => ?_, fun hok => ?_, ?_, ?_⟩
  · cases hok
  · cases hok
  · cases hok
  · intro hempty
    exact absurd (Or.inl hempty) hfits
  · intro _
    exact ⟨rfl, rfl⟩

/-- A filling from any value keeps to `IsFilling`. -/
theorem isFilling_of_fill (start : Value ty) (buf : Buffer ty) :
    IsFilling start.toInt buf (fill start buf).1 (fill start buf).2 := by
  cases hrefuse : refuse? start buf.length with
  | none =>
    rw [fill_of_refuse?_eq_none hrefuse]
    exact isFilling_of_fits (refuse?_eq_none_iff.mp hrefuse)
  | some report =>
    rw [fill_of_refuse?_eq_some hrefuse]
    apply isFilling_of_not_fits
    rw [← refuse?_eq_none_iff, hrefuse]
    exact Option.some_ne_none report

/-! ## Main result -/

/-- **Fillings are exact and atomic.** For every type, every first value and every buffer, whatever
    its contents: filling succeeds exactly when the last value fits, writes `start + i` at index
    `i`, and otherwise reports and changes nothing. Filling with indices is filling from zero. -/
theorem isFilling_fill (ty : ElementType) (buf : Buffer ty) :
    (∀ start : Value ty, IsFilling start.toInt buf (fill start buf).1 (fill start buf).2) ∧
      IsFilling 0 buf (fillIndices buf).1 (fillIndices buf).2 :=
  ⟨fun start => isFilling_of_fill start buf, isFilling_of_fill (.zero ty) buf⟩

end Ramp.Buffer
