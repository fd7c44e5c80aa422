import Ramp.ElementType.Basic

/-!
# `ElementType.Value` — the values of an element type

A value is an integer between the bounds of its type. There are two ways upwards: `offset` adds any
amount at once and fails outside the type, `succ` goes up by one and comes round at the top.

## Contents
- `Value`, its conversion `ofInt?` with `ofInt?_eq_some_iff`, and `zero`; `toInt_mem_limits`: values
  fit 64 bits.
- `offset` with `offset_eq_some_iff`: it succeeds exactly up to the greatest value.
- `wrap`, the value congruent to an integer, and `succ`.
- `toInt_succ_of_lt`, `toInt_succ_greatest`: one step up, and the step from the top to the bottom.
-/

namespace Ramp.ElementType

/-- A value of an element type: an integer between the bounds of the type. -/
@[ext] structure Value (ty : ElementType) where
  toInt : Int
  least_le : ty.least ≤ toInt
  le_greatest : toInt ≤ ty.greatest
  deriving DecidableEq, Repr

namespace Value

variable {ty : ElementType}

/-- The value equal to an integer, if the type has it. -/
def ofInt? (ty : ElementType) (n : Int) : Option (Value ty) :=
  if h : ty.least ≤ n ∧ n ≤ ty.greatest then some ⟨n, h.1, h.2⟩ else none

theorem ofInt?_eq_some_iff {n : Int} {v : Value ty} : ofInt? ty n = some v ↔ v.toInt = n := by
  unfold ofInt?
  split
  · constructor
    · intro h
      rw [← Option.some.inj h]
    · intro h
      exact congrArg some (Value.ext h.symm)
  · rename_i hn
    constructor
    · intro h
      cases h
    · intro h
      exact absurd ⟨h ▸ v.least_le, h ▸ v.le_greatest⟩ hn

theorem ofInt?_eq_none_iff {n : Int} :
    ofInt? ty n = none ↔ n < ty.least ∨ ty.greatest < n := by
  unfold ofInt?
  split <;> simp <;> omega

/-- An integer that is a value of the type is that value. -/
@[simp] theorem ofInt?_toInt (v : Value ty) : ofInt? ty v.toInt = some v :=
  ofInt?_eq_some_iff.mpr rfl

/-- The values of every type fit 64 bits, with a sign or without. -/
theorem toInt_mem_limits (v : Value ty) :
    Int64.minValue.toInt ≤ v.toInt ∧ v.toInt < UInt64.size := by
  have hleast : Int64.minValue.toInt ≤ ty.least := by
    cases ty <;> decide
  have hgreatest : ty.greatest < UInt64.size := by
    cases ty <;> decide
  exact ⟨Int.le_trans hleast v.least_le, Int.lt_of_le_of_lt v.le_greatest hgreatest⟩

/-- Zero, which every type has. -/
def zero (ty : ElementType) : Value ty :=
  ⟨0, ty.least_le_zero, ty.zero_le_greatest⟩

@[simp] theorem toInt_zero : (zero ty).toInt = 0 := rfl

/-- The value `index` places above `start`, if the type has it. -/
def offset (start : Value ty) (index : Nat) : Option (Value ty) :=
  ofInt? ty (start.toInt + index)

theorem offset_eq_some_iff {start v : Value ty} {index : Nat} :
    start.offset index = some v ↔ v.toInt = start.toInt + index :=
  ofInt?_eq_some_iff

/-- There is a value `index` places above exactly when it does not exceed the greatest one. -/
theorem isSome_offset_iff {start : Value ty} {index : Nat} :
    (start.offset index).isSome ↔ start.toInt + index ≤ ty.greatest := by
  have h := start.least_le
  rw [← Option.isNone_eq_false_iff, Bool.eq_false_iff, ne_eq, Option.isNone_iff_eq_none, offset,
    ofInt?_eq_none_iff]
  omega

/-- The value congruent to an integer modulo the number of values of the type. -/
def wrap (ty : ElementType) (n : Int) : Value ty where
  toInt := ty.least + (n - ty.least) % ty.span
  least_le := by
    have := Int.emod_nonneg (n - ty.least) (Int.ne_of_gt ty.span_pos)
    omega
  le_greatest := by
    have := Int.emod_lt_of_pos (n - ty.least) ty.span_pos
    rw [greatest_eq]
    omega

/-- An integer between the bounds is not changed by wrapping. -/
theorem toInt_wrap_of_mem {n : Int} (hl : ty.least ≤ n) (hg : n ≤ ty.greatest) :
    (wrap ty n).toInt = n := by
  rw [greatest_eq] at hg
  show ty.least + (n - ty.least) % ty.span = n
  rw [Int.emod_eq_of_lt (by omega) (by omega)]
  omega

/-- One above the greatest value lies the least one. -/
theorem toInt_wrap_succ_greatest : (wrap ty (ty.greatest + 1)).toInt = ty.least := by
  show ty.least + (ty.greatest + 1 - ty.least) % ty.span = ty.least
  rw [greatest_eq, show ty.least + ty.span - 1 + 1 - ty.least = ty.span by omega, Int.emod_self]
  omega

/-- The next value, coming round to the least one after the greatest. -/
def succ (v : Value ty) : Value ty :=
  wrap ty (v.toInt + 1)

/-- Below the greatest value the next one is one more. -/
theorem toInt_succ_of_lt {v : Value ty} (h : v.toInt < ty.greatest) :
    v.succ.toInt = v.toInt + 1 :=
  toInt_wrap_of_mem (by have := v.least_le; omega) (by omega)

/-- After the greatest value comes the least one. -/
theorem toInt_succ_greatest {v : Value ty} (h : v.toInt = ty.greatest) :
    v.succ.toInt = ty.least := by
  rw [succ, h, toInt_wrap_succ_greatest]

end Value

end Ramp.ElementType
