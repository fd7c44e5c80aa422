/-!
# `Decimal.Binary64` — doubles in exact arithmetic

A finite double without its sign is `significand * 2 ^ exponent`. Every result is the exact
rational result rounded once, to the nearest double and on a tie to the even significand.

## Contents
- `roundDiv`: the nearest integer to a quotient.
- `Binary64`, `ofRatio`, `ofNat`, `ofDecimal`: the nearest double, or `none` past the greatest.
- `mul`, `div`: rounded product and quotient.
-/

namespace Ramp

/-- The integer nearest to `num / den`; halves go to the even neighbour. -/
def roundDiv (num den : Nat) : Nat :=
  let down := num / den
  let rest := num % den
  if 2 * rest < den then down
  else if den < 2 * rest then down + 1
  else if down % 2 = 0 then down else down + 1

/-- A finite double without its sign: `significand * 2 ^ exponent`. -/
structure Binary64 where
  significand : Nat
  exponent : Int
  deriving DecidableEq, Repr

namespace Binary64

/-- The least exponent of a double, reached by zero and by the smallest ones. -/
def leastExponent : Int := -1074

/-- The greatest exponent of a finite double. -/
def greatestExponent : Int := 971

/-- The least significand of a double whose exponent is not the least: `2 ^ 52`. Significands stay
    below twice as much. -/
def leastNormal : Nat := 1 <<< 52

/-- Zero. -/
def zero : Binary64 := ⟨0, leastExponent⟩

/-- The double nearest to `num / den`, or `none` if that is infinite. -/
def ofRatio (num den : Nat) : Option Binary64 :=
  if num = 0 then some zero
  else
    let scaled (q : Int) : Nat × Nat := (num <<< (-q).toNat, den <<< q.toNat)
    let guess : Int := Int.ofNat num.log2 - Int.ofNat den.log2 - 52
    let exact := if (scaled guess).1 < leastNormal * (scaled guess).2 then guess - 1 else guess
    let q := max exact leastExponent
    let m := roundDiv (scaled q).1 (scaled q).2
    let (m, q) := if m = 2 * leastNormal then (leastNormal, q + 1) else (m, q)
    if greatestExponent < q then none else some ⟨m, q⟩

/-- The double nearest to a natural number. -/
def ofNat (n : Nat) : Option Binary64 :=
  ofRatio n 1

/-- The double nearest to `digits * 10 ^ exponent`. Amounts far outside the range of doubles are
    told by their number of digits alone. -/
def ofDecimal (digits : Nat) (exponent : Int) : Option Binary64 :=
  let place := Int.ofNat (Nat.toDigits 10 digits).length + exponent
  if digits = 0 then some zero
  else if 310 < place then none
  else if place < -330 then some zero
  else ofRatio (digits * Nat.pow 10 exponent.toNat) (Nat.pow 10 (-exponent).toNat)

/-- The numerator and denominator of a double. -/
def toRatio (x : Binary64) : Nat × Nat :=
  (x.significand <<< x.exponent.toNat, 1 <<< (-x.exponent).toNat)

/-- The rounded product, or `none` if it is infinite. -/
def mul (x y : Binary64) : Option Binary64 :=
  ofRatio (x.toRatio.1 * y.toRatio.1) (x.toRatio.2 * y.toRatio.2)

/-- The rounded quotient by a double that is not zero. -/
def div (x y : Binary64) : Option Binary64 :=
  ofRatio (x.toRatio.1 * y.toRatio.2) (x.toRatio.2 * y.toRatio.1)

end Binary64

end Ramp
