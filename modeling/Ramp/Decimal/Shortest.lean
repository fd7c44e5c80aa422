import Ramp.Decimal.Binary64

/-!
# `Decimal.Shortest` — the fewest digits that read back

The reals that round to a double form an interval around it, which contains its ends exactly when
the significand is even. The *shortest* decimal of a double is the decimal with the fewest digits
in that interval, and of those the nearest one; a `Tie` says which one of two equally near ones.
If a decimal grid has a point in the interval at all, one of the two grid points next to the double
lies in it, so only those two are tried.

## Contents
- `Decimal`: digits and a power of ten.
- `Tie`: the choice between two equally near decimals.
- `Binary64.shortest`.
-/

namespace Ramp

/-- The number `digits * 10 ^ exponent`. -/
structure Decimal where
  digits : Nat
  exponent : Int
  deriving DecidableEq, Repr

/-- The same number with no zero at the end of its digits. -/
def Decimal.stripZeros : Nat → Decimal → Decimal
  | 0, d => d
  | fuel + 1, d =>
    if d.digits ≠ 0 ∧ d.digits % 10 = 0 then
      Decimal.stripZeros fuel ⟨d.digits / 10, d.exponent + 1⟩
    else d

/-- Which of two equally near decimals is taken. -/
inductive Tie where
  /-- The one with an even last digit. -/
  | toEven
  /-- The greater one. -/
  | up
  deriving DecidableEq, Repr

/-- Whether the lower one of two equally near decimals is taken, by its digits. -/
def Tie.goesDown (tie : Tie) (digits : Nat) : Bool :=
  match tie with
  | .toEven => digits % 2 == 0
  | .up => false

namespace Binary64

/-- How many zeros follow the point of `num / den` before its first digit, up to `fuel`. -/
def leadingZeros : Nat → Nat → Nat → Nat
  | 0, _, _ => 0
  | fuel + 1, num, den => if den ≤ num * 10 then 0 else leadingZeros fuel (num * 10) den + 1

/-- The place of the point: `num / den` lies below ten to this power and not below a tenth of it. -/
def place (num den : Nat) : Int :=
  if den ≤ num then Int.ofNat (Nat.toDigits 10 (num / den)).length
  else -Int.ofNat (leadingZeros 400 num den)

/-- The grid point with step `10 ^ step` that reads back and is nearest, if there is one. -/
def gridPoint (tie : Tie) (x : Binary64) (step : Int) : Option Decimal :=
  let m := x.significand
  let gapBelow := if m = leastNormal ∧ leastExponent < x.exponent then 1 else 2
  -- In quarters of the last place: the double is `4 * m`, its interval reaches from
  -- `4 * m - gapBelow` to `4 * m + 2`. Amounts are compared after clearing both denominators.
  let quarter (n : Nat) : Nat := (n <<< (x.exponent - 2).toNat) * Nat.pow 10 (-step).toNat
  let grid (n : Nat) : Nat := (n * Nat.pow 10 step.toNat) <<< (2 - x.exponent).toNat
  let inside (n : Nat) : Bool :=
    if m % 2 = 0 then
      quarter (4 * m - gapBelow) ≤ grid n && grid n ≤ quarter (4 * m + 2)
    else
      quarter (4 * m - gapBelow) < grid n && grid n < quarter (4 * m + 2)
  let down := quarter (4 * m) / grid 1
  let distanceDown := quarter (4 * m) - grid down
  let distanceUp := grid (down + 1) - quarter (4 * m)
  if inside down && inside (down + 1) then
    if distanceDown < distanceUp || (distanceDown == distanceUp && tie.goesDown down) then
      some ⟨down, step⟩
    else some ⟨down + 1, step⟩
  else if inside down then some ⟨down, step⟩
  else if inside (down + 1) then some ⟨down + 1, step⟩
  else none

/-- The decimal with the fewest digits that reads back as this double, and of those the nearest. -/
def shortest (tie : Tie) (x : Binary64) : Decimal :=
  if x.significand = 0 then ⟨0, 0⟩
  else
    let top := place x.toRatio.1 x.toRatio.2
    let found := (List.range 17).findSome? fun n => x.gridPoint tie (top - Int.ofNat (n + 1))
    Decimal.stripZeros 20 (found.getD ⟨x.toRatio.1 / x.toRatio.2, 0⟩)

end Binary64

end Ramp
