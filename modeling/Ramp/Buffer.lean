import Ramp.ElementType.Value

/-!
# `Buffer` — filling a buffer with a run of integers

A run of length `n` from `start` is `start, start + 1, …`. A buffer is filled with a run all at
once or not at all: whether the run fits is decided beforehand, from its last element alone.

## Contents
- `Value.run`: the values met by going up from a start, with `run_succ` and `length_run`.
- `Overflow`: the report of a run that leaves its type; `Buffer.refuse?` with `refuse?_eq_none_iff`.
- `Buffer.overwrite`: a run written over the elements; `overwrite_eq_run`: their number alone
  counts.
- `Buffer.fill` and `Buffer.fillIndices`: what is answered and the buffer left behind.
- `Buffer.run?`: a run in a new buffer; `run?_eq_fill`: it is a filled buffer of zeros.
- `Buffer.Step`, `Buffer.apply`: the operations on a buffer and what each leaves behind;
  `Buffer.applyAll`: what several of them leave behind.
-/

namespace Ramp

open ElementType

namespace ElementType.Value

variable {ty : ElementType}

/-- The values met in `n` steps up from a value, behind those already `met` (latest first). -/
def runOnto : Nat → Value ty → List (Value ty) → List (Value ty)
  | 0, _, met => met.reverse
  | n + 1, v, met => runOnto n v.succ (v :: met)

/-- The `n` values met by going up from `start`. -/
def run (start : Value ty) (n : Nat) : List (Value ty) :=
  runOnto n start []

theorem runOnto_eq (n : Nat) (v : Value ty) (met : List (Value ty)) :
    runOnto n v met = met.reverse ++ runOnto n v [] := by
  induction n generalizing v met with
  | zero => simp [runOnto]
  | succ n ih =>
    rw [runOnto, runOnto, ih v.succ (v :: met), ih v.succ [v]]
    simp

@[simp] theorem run_zero (start : Value ty) : start.run 0 = [] := rfl

theorem run_succ (start : Value ty) (n : Nat) :
    start.run (n + 1) = start :: start.succ.run n := by
  rw [run, runOnto, runOnto_eq]
  rfl

@[simp] theorem length_run (start : Value ty) (n : Nat) : (start.run n).length = n := by
  induction n generalizing start with
  | zero => rfl
  | succ n ih => rw [run_succ, List.length_cons, ih]

end ElementType.Value

/-- The report of a run of `length` values that leaves its type. -/
structure Overflow where
  elementType : ElementType
  /-- The first value, in decimal. -/
  start : String
  length : Nat
  deriving DecidableEq, Repr

/-- Values of one type in a row. -/
abbrev Buffer (ty : ElementType) := List (Value ty)

namespace Buffer

variable {ty : ElementType}

/-- Why `n` values from `start` on are no run of the type, if they are not: the last one is missing.
    Of no values nothing is asked. -/
def refuse? (start : Value ty) (n : Nat) : Option Overflow :=
  if n = 0 then none
  else if (start.offset (n - 1)).isSome then none
  else some ⟨ty, start.toInt.repr, n⟩

/-- A run is refused unless it is empty or its last value does not exceed the greatest one. -/
theorem refuse?_eq_none_iff {start : Value ty} {n : Nat} :
    refuse? start n = none ↔ n = 0 ∨ start.toInt + ((n : Int) - 1) ≤ ty.greatest := by
  unfold refuse?
  by_cases hn : n = 0
  · simp [hn]
  · have hlast : ((n - 1 : Nat) : Int) = (n : Int) - 1 := by omega
    rw [if_neg hn, ← hlast, ← Value.isSome_offset_iff]
    split <;> simp_all

/-- Every refusal reports the type, the first value and the length. -/
theorem eq_of_refuse?_eq_some {start : Value ty} {n : Nat} {report : Overflow}
    (h : refuse? start n = some report) : report = ⟨ty, start.toInt.repr, n⟩ := by
  unfold refuse? at h
  split at h
  · cases h
  · split at h
    · cases h
    · exact (Option.some.inj h).symm

/-- Writes `next` and the values above it over the elements of a buffer, behind those that are
    `done` (latest first). -/
def overwriteOnto : Value ty → Buffer ty → Buffer ty → Buffer ty
  | _, [], done => done.reverse
  | next, _ :: rest, done => overwriteOnto next.succ rest (next :: done)

/-- The buffer with every element replaced, going up from `start`. -/
def overwrite (start : Value ty) (buf : Buffer ty) : Buffer ty :=
  overwriteOnto start buf []

/-- What is written over a buffer does not depend on what was in it. -/
theorem overwrite_eq_run (start : Value ty) (buf : Buffer ty) :
    overwrite start buf = start.run buf.length := by
  have honto : ∀ (next : Value ty) (done : Buffer ty),
      overwriteOnto next buf done = Value.runOnto buf.length next done := by
    induction buf with
    | nil => intro next done; rfl
    | cons v rest ih => intro next done; exact ih next.succ (next :: done)
  exact honto start []

/-- Fills a buffer with the run from `start`: what is answered, and the buffer left behind. -/
def fill (start : Value ty) (buf : Buffer ty) : Except Overflow Unit × Buffer ty :=
  match refuse? start buf.length with
  | none => (.ok (), overwrite start buf)
  | some report => (.error report, buf)

/-- Fills a buffer with the indices of its elements. -/
def fillIndices (buf : Buffer ty) : Except Overflow Unit × Buffer ty :=
  fill (.zero ty) buf

/-- The run of `n` values from `start` in a new buffer. -/
def run? (start : Value ty) (n : Nat) : Except Overflow (Buffer ty) :=
  match refuse? start n with
  | none => .ok (start.run n)
  | some report => .error report

/-- A run in a new buffer is what a buffer of as many zeros is filled with. -/
theorem run?_eq_fill (start : Value ty) (n : Nat) :
    run? start n =
      match fill start (List.replicate n (.zero ty)) with
      | (.ok (), buf) => .ok buf
      | (.error report, _) => .error report := by
  unfold run? fill
  rw [overwrite_eq_run, List.length_replicate]
  cases refuse? start n <;> rfl

/-- The ways to change a buffer. -/
inductive Step (ty : ElementType) where
  /-- Fill the positions from `lo` up to but not including `hi`. -/
  | fill (start : Value ty) (lo hi : Nat)
  /-- Fill these positions with their distances from `lo`. -/
  | fillIndices (lo hi : Nat)
  /-- Append `count` copies of a value. -/
  | push (value : Value ty) (count : Nat)
  /-- Keep only the first `length` elements. -/
  | truncate (length : Nat)
  deriving Repr

/-- Does something to the positions from `lo` up to but not including `hi`. -/
def onSlice (lo hi : Nat) (action : Buffer ty → Except Overflow Unit × Buffer ty)
    (buf : Buffer ty) : Except Overflow Unit × Buffer ty :=
  let (result, middle) := action ((buf.take hi).drop lo)
  (result, buf.take lo ++ middle ++ buf.drop (max lo hi))

/-- What one step answers, and the buffer it leaves. -/
def apply (buf : Buffer ty) : Step ty → Except Overflow Unit × Buffer ty
  | .fill start lo hi => onSlice lo hi (fill start) buf
  | .fillIndices lo hi => onSlice lo hi fillIndices buf
  | .push value count => (.ok (), buf ++ List.replicate count value)
  | .truncate length => (.ok (), buf.take length)

/-- The buffer that some steps leave behind. -/
def applyAll (buf : Buffer ty) (steps : List (Step ty)) : Buffer ty :=
  steps.foldl (fun buf step => (buf.apply step).2) buf

end Buffer

end Ramp
