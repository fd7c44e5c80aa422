import Mathlib.Algebra.Group.Nat.Defs
import Ramp.Metrics.Exposition

/-!
# `Proofs.WholeAmounts` — whole numbers below `2 ^ 53` are shown exactly

A value is shown as the double nearest to it, and a double by the fewest digits that read back. For
a whole number below `2 ^ 53` neither step loses anything: it is a double, whose unit in the last
place is not greater than one. So the reals that round to it reach at most half a unit to either
side and hold no other whole number. The grids of whole decimals are tried from coarse to fine;
whatever is found on one of them is therefore the number itself, and on the finest of them it is
found at the latest.

## Contents
- `Binary64.IsWhole`, with `exists_isWhole_of_lt`: small numbers are doubles.
- `near_iff`, `near_strict_iff`: no other whole number is near; `gridPoint_of_isWhole`.
- `Decimal.IsWhole`, with `isWhole_shortest`: the shortest decimal is the number itself.
- `render_amount_of_isWhole`, `Exposition.amount_of_lt`: it is shown in decimal.
-/

namespace Ramp

namespace Binary64

/-- **The double is the whole number `n`**, with a unit in the last place that divides one. -/
structure IsWhole (x : Binary64) (n : Nat) : Prop where
  exponent_nonpos : x.exponent ≤ 0
  significand_eq : x.significand = n * 2 ^ (-x.exponent).toNat

/-! ## Small numbers are doubles -/

theorem roundDiv_one (num : Nat) : roundDiv num 1 = num := by
  have hrest : num % 1 = 0 := Nat.mod_one num
  rw [roundDiv, hrest, Nat.div_one]
  simp

/-- A number below `2 ^ 53` has at most 53 binary digits, and is moved up to exactly 53 of them. -/
theorem le_shifted_lt {n : Nat} (hpos : 0 < n) (hlt : n < 2 ^ 53) :
    n.log2 ≤ 52 ∧ 2 ^ 52 ≤ n * 2 ^ (52 - n.log2) ∧ n * 2 ^ (52 - n.log2) < 2 ^ 53 := by
  have hne : n ≠ 0 := Nat.pos_iff_ne_zero.mp hpos
  have hlog : n.log2 < 53 := (Nat.log2_lt hne).mpr hlt
  have hlow : 2 ^ n.log2 ≤ n := Nat.log2_self_le hne
  have hhigh : n < 2 ^ (n.log2 + 1) := (Nat.log2_lt hne).mp (Nat.lt_succ_self _)
  have hshift : 0 < 2 ^ (52 - n.log2) := Nat.two_pow_pos _
  refine ⟨by omega, ?_, ?_⟩
  · calc 2 ^ 52 = 2 ^ n.log2 * 2 ^ (52 - n.log2) := by
          rw [← Nat.pow_add]
          congr 1
          omega
      _ ≤ n * 2 ^ (52 - n.log2) := Nat.mul_le_mul_right _ hlow
  · calc n * 2 ^ (52 - n.log2) < 2 ^ (n.log2 + 1) * 2 ^ (52 - n.log2) :=
          Nat.mul_lt_mul_of_pos_right hhigh hshift
      _ = 2 ^ 53 := by
          rw [← Nat.pow_add]
          congr 1
          omega

theorem leastNormal_eq : leastNormal = 2 ^ 52 := by
  decide

/-- What is rounded has exactly 53 binary digits, and nothing is rounded off. -/
theorem ofRatio_of_shifted {n k : Nat} (hne : n ≠ 0) (hk : k ≤ 52) (hlog : n.log2 = 52 - k)
    (hlow : 2 ^ 52 ≤ n * 2 ^ k) (hhigh : n * 2 ^ k < 2 ^ 53) :
    ofRatio n 1 = some ⟨n * 2 ^ k, -(k : Int)⟩ := by
  have hguess : Int.ofNat n.log2 - Int.ofNat (Nat.log2 1) - 52 = -(k : Int) := by
    have hone : Nat.log2 1 = 0 := by decide
    rw [hone, hlog]
    simp only [Int.ofNat_eq_natCast]
    omega
  have hup : (- -(k : Int)).toNat = k := by omega
  have hdown : (-(k : Int)).toNat = 0 := by omega
  have hexact : ¬ n * 2 ^ k < leastNormal * 1 := by
    rw [leastNormal_eq]
    omega
  have hmax : max (-(k : Int)) leastExponent = -(k : Int) := by
    rw [leastExponent]
    omega
  have hcarry : ¬ n * 2 ^ k = 2 * leastNormal := by
    rw [leastNormal_eq]
    omega
  have hfinite : ¬ greatestExponent < -(k : Int) := by
    rw [greatestExponent]
    omega
  rw [ofRatio, if_neg hne]
  simp only [hguess, hup, hdown, Nat.shiftLeft_eq, Nat.one_mul, Nat.pow_zero, if_neg hexact, hmax,
    roundDiv_one, if_neg hcarry, if_neg hfinite]

/-- **A number below `2 ^ 53` is a double.** -/
theorem exists_isWhole_of_lt {n : Nat} (hlt : n < 2 ^ 53) :
    ∃ x, ofNat n = some x ∧ x.IsWhole n := by
  by_cases hzero : n = 0
  · refine ⟨zero, by rw [ofNat, ofRatio, if_pos hzero], by decide, ?_⟩
    rw [hzero, Nat.zero_mul]
    rfl
  · obtain ⟨hlog, hlow, hhigh⟩ := le_shifted_lt (Nat.pos_iff_ne_zero.mpr hzero) hlt
    refine ⟨_, ofRatio_of_shifted hzero (Nat.sub_le 52 _) (by omega) hlow hhigh, ?_, ?_⟩
    · show -((52 - n.log2 : Nat) : Int) ≤ 0
      omega
    · show n * 2 ^ (52 - n.log2) = n * 2 ^ (- -((52 - n.log2 : Nat) : Int)).toNat
      rw [Int.neg_neg, Int.toNat_natCast]

/-! ## No other whole number is near -/

/-- A unit that is at least four quarters leaves no room for another whole number. -/
theorem near_iff {n k unit gap : Nat} (hunit : 4 ≤ unit) (hgap : gap ≤ 2) :
    n * unit - gap ≤ k * unit ∧ k * unit ≤ n * unit + 2 ↔ k = n := by
  constructor
  · rintro ⟨hlow, hhigh⟩
    rcases Nat.lt_trichotomy k n with hless | hsame | hmore
    · have hstep : (k + 1) * unit ≤ n * unit := Nat.mul_le_mul_right unit hless
      rw [Nat.succ_mul] at hstep
      omega
    · exact hsame
    · have hstep : (n + 1) * unit ≤ k * unit := Nat.mul_le_mul_right unit hmore
      rw [Nat.succ_mul] at hstep
      omega
  · rintro rfl
    omega

/-- The same where the ends do not count. -/
theorem near_strict_iff {n k unit gap : Nat} (hunit : 4 ≤ unit) (hgap : gap ≤ 2) (hpos : 0 < n)
    (hgappos : 0 < gap) :
    n * unit - gap < k * unit ∧ k * unit < n * unit + 2 ↔ k = n := by
  constructor
  · rintro ⟨hlow, hhigh⟩
    exact (near_iff hunit hgap).mp ⟨Nat.le_of_lt hlow, Nat.le_of_lt hhigh⟩
  · rintro rfl
    have hunitpos : unit ≤ k * unit := Nat.le_mul_of_pos_left unit hpos
    omega

/-- **On a grid of whole decimals only the number itself reads back.** -/
theorem gridPoint_of_isWhole {x : Binary64} {n : Nat} (h : x.IsWhole n) (hpos : 0 < n) (tie : Tie)
    (step : Nat) :
    x.gridPoint tie step = if n % 10 ^ step = 0 then some ⟨n / 10 ^ step, step⟩ else none := by
  have hexponent : (x.exponent - 2).toNat = 0 := by
    have := h.exponent_nonpos
    omega
  have hgrid : (2 - x.exponent).toNat = (-x.exponent).toNat + 2 := by
    have := h.exponent_nonpos
    omega
  have hstep : (-(step : Int)).toNat = 0 := by omega
  have hunit : 4 ≤ 2 ^ ((-x.exponent).toNat + 2) := by
    have := Nat.two_pow_pos (-x.exponent).toNat
    rw [Nat.pow_add]
    omega
  unfold gridPoint
  extract_lets m gapBelow quarter grid inside down distanceDown distanceUp
  -- in quarters of the last place a whole number is a multiple of the unit
  have hvalue : 4 * m = n * 2 ^ ((-x.exponent).toNat + 2) := by
    show 4 * x.significand = _
    rw [h.significand_eq, Nat.pow_add, Nat.mul_left_comm, Nat.mul_comm 4]
  have hquarter : ∀ j, quarter j = j := by
    intro j
    simp [quarter, hexponent, hstep]
  have hpoint : ∀ j, grid j = j * 10 ^ step * 2 ^ ((-x.exponent).toNat + 2) := by
    intro j
    show (j * 10 ^ (step : Int).toNat) <<< (2 - x.exponent).toNat = _
    rw [hgrid, Int.toNat_natCast, Nat.shiftLeft_eq]
  have hgap : gapBelow ≤ 2 ∧ 0 < gapBelow := by
    show (if _ then 1 else 2) ≤ 2 ∧ 0 < (if _ then 1 else 2)
    split <;> omega
  have hinside : ∀ j, inside j = decide (j * 10 ^ step = n) := by
    intro j
    show (if m % 2 = 0 then _ else _) = _
    rw [hquarter, hquarter, hpoint, hvalue]
    split
    · rw [← Bool.decide_and]
      exact decide_eq_decide.mpr (near_iff hunit hgap.1)
    · rw [← Bool.decide_and]
      exact decide_eq_decide.mpr (near_strict_iff hunit hgap.1 hpos hgap.2)
  have hdown : down = n / 10 ^ step := by
    show quarter (4 * m) / grid 1 = _
    rw [hquarter, hpoint, hvalue, Nat.one_mul]
    exact Nat.mul_div_mul_right _ _ (by omega)
  have hfloor := Nat.div_add_mod' n (10 ^ step)
  have hrest := Nat.mod_lt n (Nat.pow_pos (n := step) (show 0 < 10 by decide))
  -- the grid point above the number is not the number, and the one below only if it is on the grid
  have habove : inside (down + 1) = false := by
    rw [hinside, hdown, decide_eq_false_iff_not, Nat.succ_mul]
    omega
  rw [habove, Bool.and_false, if_neg Bool.false_ne_true, if_neg Bool.false_ne_true, hinside, hdown]
  by_cases hgridded : n % 10 ^ step = 0
  · rw [if_pos hgridded, if_pos (decide_eq_true (by omega))]
  · rw [if_neg hgridded, if_neg]
    rw [decide_eq_true_iff]
    omega

end Binary64

/-! ## The shortest decimal -/

/-- **The decimal is the whole number `n`**, with no zeros behind it unless it has digits. -/
def Decimal.IsWhole (d : Decimal) (n : Nat) : Prop :=
  ∃ zeros : Nat, d.exponent = zeros ∧ d.digits * 10 ^ zeros = n ∧ (d.digits = 0 → zeros = 0)

/-- Zeros that are taken off are counted. -/
theorem Decimal.IsWhole.stripZeros {d : Decimal} {n : Nat} (h : d.IsWhole n) (fuel : Nat) :
    (Decimal.stripZeros fuel d).IsWhole n := by
  induction fuel generalizing d with
  | zero => exact h
  | succ fuel ih =>
    rw [Decimal.stripZeros]
    split
    · next hzero =>
      obtain ⟨zeros, hexponent, hvalue, -⟩ := h
      have hten : d.digits / 10 * 10 = d.digits := by omega
      refine ih ⟨zeros + 1, ?_, ?_, ?_⟩
      · rw [hexponent]
        rfl
      · rw [Nat.pow_succ', ← Nat.mul_assoc, hten, hvalue]
      · intro hnone
        have hnone : d.digits / 10 = 0 := hnone
        omega
    · exact h

namespace Binary64

/-- The place of the point of a whole number is behind its digits. -/
theorem place_of_isWhole {x : Binary64} {n : Nat} (h : x.IsWhole n) (hpos : 0 < n) :
    place x.toRatio.1 x.toRatio.2 = (Nat.toDigits 10 n).length := by
  have hup : x.exponent.toNat = 0 := by
    have := h.exponent_nonpos
    omega
  have hunit := Nat.two_pow_pos (-x.exponent).toNat
  have hratio : x.toRatio = (n * 2 ^ (-x.exponent).toNat, 2 ^ (-x.exponent).toNat) := by
    rw [toRatio, hup, h.significand_eq, Nat.shiftLeft_eq, Nat.shiftLeft_eq, Nat.pow_zero,
      Nat.mul_one, Nat.one_mul]
  rw [hratio, place, if_pos (Nat.le_mul_of_pos_left _ hpos), Nat.mul_div_cancel _ hunit]
  rfl

/-- **The number is found on one of the grids**, which are tried from coarse to fine: at the latest
    on the one of all whole numbers, before there are any with places behind the point. -/
theorem exists_gridPoint_of_isWhole {x : Binary64} {n : Nat} (h : x.IsWhole n) (hpos : 0 < n)
    (hlt : n < 10 ^ 17) (tie : Tie) :
    ∃ d, ((List.range 17).findSome? fun i =>
        x.gridPoint tie ((Nat.toDigits 10 n).length - Int.ofNat (i + 1))) = some d ∧
      d.IsWhole n := by
  have hcount : (Nat.toDigits 10 n).length ≤ 17 :=
    (Nat.length_toDigits_le_iff (by decide) (by decide)).mpr hlt
  have hsome : 0 < (Nat.toDigits 10 n).length := Nat.length_toDigits_pos
  generalize (Nat.toDigits 10 n).length = count at hcount hsome
  -- the first grids, as many as there are digits, are grids of whole numbers
  have hwhole : ∀ i < count, x.gridPoint tie (count - Int.ofNat (i + 1)) =
      if n % 10 ^ (count - 1 - i) = 0 then some ⟨n / 10 ^ (count - 1 - i), (count - 1 - i : Nat)⟩
      else none := by
    intro i hi
    rw [← gridPoint_of_isWhole h hpos]
    congr 1
    simp only [Int.ofNat_eq_natCast]
    omega
  have hsplit : List.range 17 = List.range count ++ (List.range (17 - count)).map (count + ·) := by
    rw [← List.range_add]
    congr 1
    omega
  rw [hsplit, List.findSome?_append]
  cases hfound : (List.range count).findSome? fun i =>
      x.gridPoint tie (count - Int.ofNat (i + 1)) with
  | none =>
    -- on the last of them is every whole number
    have hlast := List.findSome?_eq_none_iff.mp hfound (count - 1) (by simp; omega)
    rw [hwhole (count - 1) (by omega), Nat.sub_self, Nat.pow_zero, Nat.mod_one, if_pos rfl] at hlast
    cases hlast
  | some d =>
    obtain ⟨i, hmem, hpoint⟩ := List.exists_of_findSome?_eq_some hfound
    rw [hwhole i (List.mem_range.mp hmem)] at hpoint
    split at hpoint
    · next hgridded =>
      cases hpoint
      have hvalue := Nat.div_add_mod' n (10 ^ (count - 1 - i))
      rw [hgridded, Nat.add_zero] at hvalue
      refine ⟨_, rfl, count - 1 - i, rfl, hvalue, ?_⟩
      intro hnone
      have hnone : n / 10 ^ (count - 1 - i) = 0 := hnone
      rw [hnone, Nat.zero_mul] at hvalue
      omega
    · cases hpoint

/-- **The shortest decimal of a whole number is the number itself**, if it has not more digits than
    are tried. -/
theorem isWhole_shortest {x : Binary64} {n : Nat} (h : x.IsWhole n) (hlt : n < 10 ^ 17)
    (tie : Tie) :
    (x.shortest tie).IsWhole n := by
  by_cases hzero : n = 0
  · have hsignificand : x.significand = 0 := by
      rw [h.significand_eq, hzero, Nat.zero_mul]
    rw [shortest, if_pos hsignificand, hzero]
    exact ⟨0, rfl, rfl, fun _ => rfl⟩
  · have hpos : 0 < n := Nat.pos_iff_ne_zero.mpr hzero
    have hsignificand : x.significand ≠ 0 := by
      rw [h.significand_eq]
      exact Nat.mul_ne_zero hzero (Nat.pos_iff_ne_zero.mp (Nat.two_pow_pos _))
    obtain ⟨found, hfound, hwhole⟩ := exists_gridPoint_of_isWhole h hpos hlt tie
    rw [shortest, if_neg hsignificand, place_of_isWhole h hpos]
    dsimp only
    rw [hfound]
    exact hwhole.stripZeros 20

end Binary64

/-! ## What is shown -/

/-- Zeros at the end of a number are zeros behind its digits. -/
theorem toDigits_mul_pow {n : Nat} (zeros : Nat) (h : n = 0 → zeros = 0) :
    Nat.toDigits 10 (n * 10 ^ zeros) = Nat.toDigits 10 n ++ List.replicate zeros '0' := by
  induction zeros with
  | zero => simp
  | succ zeros ih =>
    have hpos : 0 < n := by omega
    have hzero : Nat.toDigits 10 0 = ['0'] := Nat.toDigits_zero 10
    rw [List.replicate_succ', ← List.append_assoc, ← ih (by omega), ← hzero,
      Nat.toDigits_append_toDigits (by decide) (Nat.mul_pos hpos (Nat.pow_pos (by decide)))
        (by decide)]
    congr 1
    rw [Nat.pow_succ', Nat.mul_left_comm, Nat.add_zero]

/-- With the point behind all digits and some zeros no point is written. -/
theorem positional_add {digits : List Char} (hne : digits ≠ []) (zeros : Nat) :
    FloatStyle.positional false digits (Int.ofNat digits.length + zeros) =
      digits ++ List.replicate zeros '0' := by
  have hpos := List.length_pos_iff.mpr hne
  have hbehind : ¬ Int.ofNat digits.length + (zeros : Int) ≤ 0 := by
    simp only [Int.ofNat_eq_natCast]
    omega
  have hwhole : Int.ofNat digits.length ≤ Int.ofNat digits.length + (zeros : Int) := by omega
  have hcount : (Int.ofNat digits.length + (zeros : Int)).toNat - digits.length = zeros := by
    simp only [Int.ofNat_eq_natCast]
    omega
  rw [FloatStyle.positional, if_neg hbehind, if_pos hwhole, hcount, if_neg Bool.false_ne_true,
    List.append_nil]

/-- **An amount that is a whole number is shown in decimal.** -/
theorem render_amount_of_isWhole {x : Binary64} {n : Nat} (h : x.IsWhole n) (hlt : n < 10 ^ 17) :
    FloatStyle.amount.render false x = n.repr := by
  obtain ⟨zeros, hexponent, hvalue, hzeros⟩ := x.isWhole_shortest h hlt FloatStyle.amount.tie
  have hplain : ∀ power, FloatStyle.amount.isPositional power = true := fun _ => rfl
  have hpoint : FloatStyle.amount.keepsPoint = false := rfl
  rw [FloatStyle.render, Nat.repr_eq_ofList_toDigits, ← hvalue, toDigits_mul_pow zeros hzeros]
  simp only [hplain, Bool.or_true, if_true, hexponent, hpoint, Bool.false_eq_true, if_false,
    positional_add Nat.toDigits_ne_nil]

/-- **A value below `2 ^ 53` is shown in decimal.** -/
theorem Exposition.amount_of_lt {n : UInt64} (hlt : n.toNat < 2 ^ 53) :
    Exposition.amount n = n.toNat.repr := by
  obtain ⟨x, hdouble, hwhole⟩ := Binary64.exists_isWhole_of_lt hlt
  rw [Exposition.amount, hdouble]
  exact render_amount_of_isWhole hwhole (by omega)

end Ramp
