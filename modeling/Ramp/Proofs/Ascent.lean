import Mathlib.Data.Int.ModEq
import Mathlib.Tactic.NormNum
import Ramp.Proofs.Run

/-!
# `Proofs.Ascent` — going up at once, and going up one by one

There are two ways up from a value. `offset` adds the whole distance in one sum, for which words of
128 bits are wide enough, and asks whether the type has the sum. `succ` goes up by one in the width
of the type and asks nothing; at the top it comes round. One step commutes with wrapping
(`succ_wrap`), so any number of steps leads to the value congruent to the sum (`iterate_succ`). That
is where `offset` leads too, if it leads anywhere; and it leads nowhere exactly if the steps have
come round on their way.

## Contents
- `wide`: integers as words of 128 bits; `not_saddOverflow_wide`, `toInt_wide_add`: the sum of a
  value and an index.
- `exists_offset_iff`, `offset_eq_none_iff`: how far `offset` leads.
- `toInt_wrap_modEq`, `eq_wrap_of_modEq`: the value congruent to an integer, and no other.
- `iterate_succ`, `toInt_iterate_succ`: where the steps lead.
- `ComesRound` with `exists_comesRound_iff`: when the steps come by the top of the type.
- `IsAscent` and `isAscent`: the main result.
-/

namespace Ramp.ElementType.Value

variable {ty : ElementType}

/-! ## Sums in words of 128 bits -/

/-- An integer as a word of 128 bits. -/
def wide (n : Int) : BitVec 128 :=
  BitVec.ofInt 128 n

/-- The word of an integer that is not too large stands for this integer. -/
theorem toInt_wide {n : Int} (hlow : -170141183460469231731687303715884105728 ≤ n)
    (hhigh : n < 170141183460469231731687303715884105728) : (wide n).toInt = n := by
  rw [wide, BitVec.toInt_ofInt]
  exact Int.bmod_eq_of_le_mul_two (by norm_num; omega) (by norm_num; omega)

/-- A value and an index are far within the range of these words. -/
theorem limits_of_operands (start : Value ty) (index : UInt64) :
    (-9223372036854775808 ≤ start.toInt ∧ start.toInt < 18446744073709551616) ∧
      index.toNat < 18446744073709551616 := by
  have hmin : Int64.minValue.toInt = -9223372036854775808 := by decide
  have hvalue := start.toInt_mem_limits
  rw [hmin] at hvalue
  exact ⟨hvalue, index.toNat_lt_size⟩

/-- The words of a value and of an index stand for these integers. -/
theorem toInt_wide_operands (start : Value ty) (index : UInt64) :
    (wide start.toInt).toInt = start.toInt ∧ (wide index.toNat).toInt = index.toNat := by
  obtain ⟨⟨hlow, hhigh⟩, hindex⟩ := limits_of_operands start index
  exact ⟨toInt_wide (by omega) (by omega), toInt_wide (by omega) (by omega)⟩

/-- **A value and an index can be added** in words of 128 bits without an overflow. -/
theorem not_saddOverflow_wide (start : Value ty) (index : UInt64) :
    (wide start.toInt).saddOverflow (wide index.toNat) = false := by
  obtain ⟨⟨hlow, hhigh⟩, hindex⟩ := limits_of_operands start index
  obtain ⟨hstart, hword⟩ := toInt_wide_operands start index
  rw [BitVec.saddOverflow, hstart, hword]
  simp only [Bool.or_eq_false_iff, decide_eq_false_iff_not]
  omega

/-- The sum of the words stands for the sum of the integers. -/
theorem toInt_wide_add (start : Value ty) (index : UInt64) :
    (wide start.toInt + wide index.toNat).toInt = start.toInt + index.toNat := by
  have hfits : ¬ (wide start.toInt).saddOverflow (wide index.toNat) = true := by
    rw [not_saddOverflow_wide]
    exact Bool.false_ne_true
  obtain ⟨hstart, hword⟩ := toInt_wide_operands start index
  rw [BitVec.toInt_add_of_not_saddOverflow hfits, hstart, hword]

/-! ## At once -/

/-- There is a value at a distance exactly up to the greatest one. -/
theorem exists_offset_iff {start : Value ty} {k : Nat} :
    (∃ v, start.offset k = some v) ↔ start.toInt + k ≤ ty.greatest := by
  rw [← Option.isSome_iff_exists, isSome_offset_iff]

/-- There is none exactly beyond the greatest one, for no distance leads downwards. -/
theorem offset_eq_none_iff {start : Value ty} {k : Nat} :
    start.offset k = none ↔ ty.greatest < start.toInt + k := by
  rw [← not_le, ← exists_offset_iff, ← Option.isSome_iff_exists, Option.not_isSome_iff_eq_none]

/-! ## One by one -/

/-- A type has as many values as there are words of its width. -/
theorem span_eq (ty : ElementType) : ty.span = 2 ^ ty.bits := by
  cases ty <;> decide

/-- Wrapping keeps the residue. -/
theorem toInt_wrap_modEq (ty : ElementType) (n : Int) :
    (wrap ty n).toInt ≡ n [ZMOD 2 ^ ty.bits] := by
  rw [← span_eq]
  show ty.least + (n - ty.least) % ty.span ≡ n [ZMOD ty.span]
  have hresidue : (n - ty.least) % ty.span ≡ n - ty.least [ZMOD ty.span] := Int.mod_modEq _ _
  have hsum := hresidue.add_left ty.least
  rwa [add_sub_cancel] at hsum

/-- **There is one value with a residue**: the integers between the bounds are too few for two. -/
theorem eq_wrap_of_modEq {v : Value ty} {n : Int} (h : v.toInt ≡ n [ZMOD 2 ^ ty.bits]) :
    v = wrap ty n := by
  rw [← span_eq] at h
  have hshift : (v.toInt - ty.least) % ty.span = (n - ty.least) % ty.span := h.sub_right ty.least
  have hlow := v.least_le
  have hhigh := v.le_greatest
  rw [greatest_eq] at hhigh
  apply Value.ext
  show v.toInt = ty.least + (n - ty.least) % ty.span
  rw [← hshift, Int.emod_eq_of_lt (by omega) (by omega)]
  omega

/-- The steps up from the value congruent to an integer. -/
theorem iterate_succ_wrap (n : Int) (k : Nat) : succ^[k] (wrap ty n) = wrap ty (n + k) := by
  induction k with
  | zero => simp
  | succ k ih =>
    rw [Function.iterate_succ_apply', ih, succ_wrap]
    congr 1
    omega

/-- **Any number of steps leads to the value congruent to the sum**, even if it comes round. -/
theorem iterate_succ (start : Value ty) (k : Nat) :
    succ^[k] start = wrap ty (start.toInt + k) := by
  conv => lhs; rw [← wrap_toInt start]
  exact iterate_succ_wrap start.toInt k

/-- Up to the greatest value the steps lead to the sum itself. -/
theorem toInt_iterate_succ {start : Value ty} {k : Nat} (h : start.toInt + k ≤ ty.greatest) :
    (succ^[k] start).toInt = start.toInt + k := by
  have hleast := start.least_le
  rw [iterate_succ, toInt_wrap_of_mem (by omega) h]

/-- The step from the greatest value to the least is the one after `j` steps. -/
def ComesRound (start : Value ty) (j : Nat) : Prop :=
  (succ^[j] start).toInt = ty.greatest ∧ (succ^[j + 1] start).toInt = ty.least

/-- At the distance of the greatest value the next step comes round. -/
theorem comesRound_of_eq {start : Value ty} {j : Nat} (h : start.toInt + j = ty.greatest) :
    ComesRound start j := by
  have htop : (succ^[j] start).toInt = ty.greatest := by
    rw [toInt_iterate_succ (le_of_eq h), h]
  refine ⟨htop, ?_⟩
  rw [Function.iterate_succ_apply']
  exact toInt_succ_greatest htop

/-- **The steps have come round exactly if the distance leads beyond the greatest value.** -/
theorem exists_comesRound_iff {start : Value ty} {k : Nat} :
    (∃ j < k, ComesRound start j) ↔ start.offset k = none := by
  rw [offset_eq_none_iff]
  constructor
  · rintro ⟨j, hj, htop, -⟩
    -- otherwise all the steps before the last one stay below the greatest value
    by_contra hfits
    rw [toInt_iterate_succ (by omega)] at htop
    omega
  · intro hbeyond
    have hle := start.le_greatest
    exact ⟨(ty.greatest - start.toInt).toNat, by omega, comesRound_of_eq (by omega)⟩

/-! ## Main result -/

/-- **The two ways up from `start` over a distance of `k`.** -/
structure IsAscent (start : Value ty) (k : UInt64) : Prop where
  /-- The sum does not overflow in words of 128 bits. -/
  sum_fits : (wide start.toInt).saddOverflow (wide k.toNat) = false
  /-- What comes of it is asked of the sum in these words. -/
  offset_eq : start.offset k.toNat = ofInt? ty (wide start.toInt + wide k.toNat).toInt
  /-- There is a value at once exactly up to the greatest one. -/
  exists_iff : (∃ v, start.offset k.toNat = some v) ↔ start.toInt + k.toNat ≤ ty.greatest
  /-- It is the sum. -/
  toInt_eq : ∀ v, start.offset k.toNat = some v → v.toInt = start.toInt + k.toNat
  /-- Then there is one at every distance below, too. -/
  exists_below : ∀ v, start.offset k.toNat = some v → ∀ j ≤ k, ∃ u, start.offset j.toNat = some u
  /-- One by one the way leads to the one value of the type that is congruent to the sum. -/
  iterate_iff : ∀ v : Value ty,
    succ^[k.toNat] start = v ↔ v.toInt ≡ start.toInt + k.toNat [ZMOD 2 ^ ty.bits]
  /-- That is the value found at once, if there is one. -/
  iterate_eq : ∀ v, start.offset k.toNat = some v → succ^[k.toNat] start = v
  /-- If there is none, and only then, the way has come by the greatest value to the least. -/
  round_iff : start.offset k.toNat = none ↔ ∃ j < k.toNat,
    (succ^[j] start).toInt = ty.greatest ∧ (succ^[j + 1] start).toInt = ty.least

/-- **Going up at once and going up one by one lead to the same values**, for every type, every
    first value and every distance. -/
theorem isAscent (start : Value ty) (k : UInt64) : IsAscent start k where
  sum_fits := not_saddOverflow_wide start k
  offset_eq := by rw [toInt_wide_add, offset]
  exists_iff := exists_offset_iff
  toInt_eq v h := offset_eq_some_iff.mp h
  exists_below v h j hj := by
    have hle : j.toNat ≤ k.toNat := UInt64.le_iff_toNat_le.mp hj
    have hfits := exists_offset_iff.mp ⟨v, h⟩
    exact exists_offset_iff.mpr (by omega)
  iterate_iff v := by
    rw [iterate_succ]
    constructor
    · rintro rfl
      exact toInt_wrap_modEq ty _
    · intro h
      exact (eq_wrap_of_modEq h).symm
  iterate_eq v h := by
    apply Value.ext
    rw [toInt_iterate_succ (exists_offset_iff.mp ⟨v, h⟩), offset_eq_some_iff.mp h]
  round_iff := exists_comesRound_iff.symm

/-- Seven above 120 lies the greatest signed byte; eight above there is nothing at once, and the
    eighth step comes round. -/
example :
    ((wrap .i8 120).offset 7).map toInt = some 127 ∧ (succ^[7] (wrap .i8 120)).toInt = 127 ∧
      (wrap .i8 120).offset 8 = none ∧ (succ^[8] (wrap .i8 120)).toInt = -128 := by
  decide

end Ramp.ElementType.Value
