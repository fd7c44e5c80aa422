import Ramp.Buffer

/-!
# `Proofs.Run` — the values of a run

A run goes up by `succ`, one step at a time in the width of its type, while whether it fits is asked
of its last value alone, by one addition in the integers. Both are tied to the integers by `wrap`:
the value at index `i` is *always* the one congruent to `start + i`, whether or not the run fits,
and as long as the last value does not exceed the greatest one, no value before it has come round.

## Contents
- `wrap_toInt`, `succ_wrap`: going up by one commutes with wrapping.
- `run_eq_map`: the values of a run, for every length.
- `getElem?_run`: the values of a run that fits, as integers.
-/

namespace Ramp.ElementType.Value

variable {ty : ElementType}

/-! ## One step up -/

/-- A value is the one congruent to itself. -/
theorem wrap_toInt (v : Value ty) : wrap ty v.toInt = v :=
  Value.ext (toInt_wrap_of_mem v.least_le v.le_greatest)

/-- **One step up commutes with wrapping**, also at the top of the type. -/
theorem succ_wrap (n : Int) : (wrap ty n).succ = wrap ty (n + 1) := by
  apply Value.ext
  show ty.least + (ty.least + (n - ty.least) % ty.span + 1 - ty.least) % ty.span
    = ty.least + (n + 1 - ty.least) % ty.span
  have hshift : ty.least + (n - ty.least) % ty.span + 1 - ty.least
      = (n - ty.least) % ty.span + 1 := by omega
  rw [hshift, Int.emod_add_emod]
  congr 2
  omega

/-! ## The values of a run -/

/-- The loop invariant: a run entered at the value congruent to `n` goes through the values
    congruent to `n`, `n + 1`, …. -/
theorem run_wrap (n : Int) (length : Nat) :
    (wrap ty n).run length = (List.range length).map fun i : Nat => wrap ty (n + i) := by
  induction length generalizing n with
  | zero => rfl
  | succ length ih =>
    rw [run_succ, succ_wrap, ih, List.range_succ_eq_map, List.map_cons, List.map_map]
    congr 1
    · simp
    · apply List.map_congr_left
      intro i _
      have hnext : n + 1 + (i : Int) = n + (i.succ : Nat) := by omega
      simp only [Function.comp_apply, hnext]

/-- **The values of a run.** Index `i` holds the value congruent to `start + i`. -/
theorem run_eq_map (start : Value ty) (length : Nat) :
    start.run length = (List.range length).map fun i : Nat => wrap ty (start.toInt + i) := by
  conv => lhs; rw [← wrap_toInt start]
  exact run_wrap start.toInt length

/-- **No stored value has come round.** If the last value of a run does not exceed the greatest one,
    index `i` holds the integer `start + i`. -/
theorem getElem?_run {start : Value ty} {length : Nat}
    (hfits : start.toInt + ((length : Int) - 1) ≤ ty.greatest) {i : Nat} (hi : i < length) :
    ((start.run length)[i]?).map Value.toInt = some (start.toInt + i) := by
  have hleast : ty.least ≤ start.toInt + i := by
    have := start.least_le
    omega
  rw [run_eq_map, List.getElem?_map, List.getElem?_range hi]
  simp only [Option.map_some]
  rw [toInt_wrap_of_mem hleast (by omega)]

end Ramp.ElementType.Value
