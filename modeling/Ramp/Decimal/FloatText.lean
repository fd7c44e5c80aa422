import Ramp.Decimal.Shortest

/-!
# `Decimal.FloatText` — how a double is written

A double is written by its shortest digits, either positionally or with an exponent. The outputs
of this library differ only in when they use an exponent, in whether a whole number keeps a point,
and in the choice between two equally near decimals.

## Contents
- `FloatStyle` with the three styles `amount`, `pointed` and `compact`.
- `FloatStyle.render`.
-/

namespace Ramp

/-- The choices in writing a double. -/
structure FloatStyle where
  /-- The powers of ten of the first digit for which no exponent is written. -/
  isPositional : Int → Bool
  /-- Whether a whole number written positionally ends in `.0`. -/
  keepsPoint : Bool
  /-- Which of two equally near decimals is written. -/
  tie : Tie

namespace FloatStyle

/-- Amounts: never an exponent, and no point in a whole number. -/
def amount : FloatStyle := ⟨fun _ => true, false, .up⟩

/-- Never an exponent, and always a point. -/
def pointed : FloatStyle := ⟨fun _ => true, true, .up⟩

/-- Always a point, and an exponent below `1e-5` and from `1e16` on. -/
def compact : FloatStyle := ⟨fun power => -5 ≤ power && power < 16, true, .toEven⟩

/-- Digits with the point behind the first `place` of them. -/
def positional (keepsPoint : Bool) (digits : List Char) (place : Int) : List Char :=
  if place ≤ 0 then '0' :: '.' :: List.replicate (-place).toNat '0' ++ digits
  else if Int.ofNat digits.length ≤ place then
    digits ++ List.replicate (place.toNat - digits.length) '0' ++
      (if keepsPoint then ['.', '0'] else [])
  else digits.take place.toNat ++ '.' :: digits.drop place.toNat

/-- Digits with the point behind the first of them, and the power of ten that this leaves. -/
def scientific (digits : List Char) (power : Int) : List Char :=
  let rest := if digits.length ≤ 1 then [] else '.' :: digits.drop 1
  digits.take 1 ++ rest ++ 'e' :: (if power < 0 then '-' else '+') ::
    Nat.toDigits 10 power.natAbs

/-- The text of a double. -/
def render (style : FloatStyle) (isNegative : Bool) (x : Binary64) : String :=
  let decimal := x.shortest style.tie
  let digits := Nat.toDigits 10 decimal.digits
  let place := Int.ofNat digits.length + decimal.exponent
  let body :=
    if x.significand = 0 || style.isPositional (place - 1) then
      positional style.keepsPoint digits place
    else scientific digits (place - 1)
  String.ofList (if isNegative then '-' :: body else body)

end FloatStyle

end Ramp
