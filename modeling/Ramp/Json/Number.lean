import Ramp.Decimal.FloatText
import Ramp.Document.Basic

/-!
# `Json.Number` — JSON numbers

An integer that fits 64 bits is an integer. Every other number is a double, and its value is
found quickly rather than exactly: of the digits only those count that fit 64 bits, and the result
is scaled by a power of ten in one rounded step.

## Contents
- `Numeral`: the parts of a number as written, and `lexNumeral`, which takes one off a text.
- `scale`: a whole number times a power of ten.
- `Numeral.value`: the document that a number is.
-/

namespace Ramp.Json

/-- The parts of a number as written. -/
structure Numeral where
  isNegative : Bool
  whole : List Char
  /-- The digits behind the point, if there is one. -/
  fraction : Option (List Char)
  /-- The sign and the digits of the exponent, if there is one. -/
  power : Option (Bool × List Char)
  deriving Repr

/-- Takes one digit or more off a text. -/
def lexDigits (cs : List Char) : Option (List Char × List Char) :=
  match cs.takeWhile Char.isDigit with
  | [] => none
  | digits => some (digits, cs.dropWhile Char.isDigit)

/-- Takes a whole number off a text: a zero, or digits that do not start with a zero. -/
def lexWhole : List Char → Option (List Char × List Char)
  | '0' :: rest =>
    if rest.head?.any Char.isDigit then none else some (['0'], rest)
  | cs => lexDigits cs

/-- Takes a point and digits off a text, if it starts with a point. -/
def lexFraction : List Char → Option (Option (List Char) × List Char)
  | '.' :: rest => (lexDigits rest).map fun (digits, rest) => (some digits, rest)
  | cs => some (none, cs)

/-- Takes an exponent off a text, if it starts with the mark of one. -/
def lexPower : List Char → Option (Option (Bool × List Char) × List Char)
  | [] => some (none, [])
  | mark :: rest =>
    if mark = 'e' ∨ mark = 'E' then
      let (isNegative, digits) := match rest with
        | '-' :: digits => (true, digits)
        | '+' :: digits => (false, digits)
        | digits => (false, digits)
      (lexDigits digits).map fun (digits, rest) => (some (isNegative, digits), rest)
    else some (none, mark :: rest)

/-- Takes a number off a text. -/
def lexNumeral (cs : List Char) : Option (Numeral × List Char) := do
  let (isNegative, cs) := match cs with
    | '-' :: rest => (true, rest)
    | cs => (false, cs)
  let (whole, cs) ← lexWhole cs
  let (fraction, cs) ← lexFraction cs
  let (power, cs) ← lexPower cs
  return (⟨isNegative, whole, fraction, power⟩, cs)

/-- The greatest significand that counts. -/
def greatestSignificand : Nat := UInt64.size - 1

/-- Appends the digits of a whole number to a significand, as long as they fit; each digit from
    the first that does not fit on raises the exponent. -/
def wholeDigits : Nat → List Char → Nat × Int
  | significand, [] => (significand, 0)
  | significand, c :: rest =>
    let next := significand * 10 + (c.toNat - '0'.toNat)
    if next ≤ greatestSignificand then wholeDigits next rest
    else (significand, Int.ofNat (rest.length + 1))

/-- Appends the digits behind a point to a significand, as long as they fit; each one that does
    lowers the exponent, and the others do not count. -/
def fractionDigits : Nat → Int → List Char → Nat × Int
  | significand, exponent, [] => (significand, exponent)
  | significand, exponent, c :: rest =>
    let next := significand * 10 + (c.toNat - '0'.toNat)
    if next ≤ greatestSignificand then fractionDigits next (exponent - 1) rest
    else (significand, exponent)

/-- Divides by ten to a large power in steps of `1e308`. After three steps nothing that fits
    64 bits is left. -/
def scaleDown : Nat → Binary64 → Nat → Option Binary64
  | 0, _, _ => some Binary64.zero
  | steps + 1, x, power =>
    if power ≤ 308 then (Binary64.ofNat (Nat.pow 10 power)).bind x.div
    else if x.significand = 0 then some x
    else
      (Binary64.ofNat (Nat.pow 10 308)).bind x.div |>.bind fun x =>
        scaleDown steps x (power - 308)

/-- The double near `significand * 10 ^ exponent`, or `none` if it is infinite. -/
def scale (significand : Nat) (exponent : Int) : Option Binary64 := do
  let x ← Binary64.ofNat significand
  if exponent < 0 then scaleDown 4 x (-exponent).toNat
  else if exponent ≤ 308 then (Binary64.ofNat (Nat.pow 10 exponent.toNat)).bind x.mul
  else if x.significand = 0 then some x
  else none

/-- The greatest exponent that is told apart from larger ones. -/
def greatestPower : Nat := Int32.maxValue.toInt.natAbs

/-- The double that a number denotes, or `none` if it is infinite. -/
def Numeral.toDouble (numeral : Numeral) : Option Binary64 :=
  let (significand, exponent) := wholeDigits 0 numeral.whole
  let (significand, exponent) :=
    fractionDigits significand exponent (numeral.fraction.getD [])
  match numeral.power with
  | none => scale significand exponent
  | some (isNegative, digits) =>
    let power := Nat.ofDigitChars 10 digits 0
    if power ≤ greatestPower then
      scale significand (if isNegative then exponent - power else exponent + power)
    else if significand = 0 ∨ isNegative then some Binary64.zero
    else none

/-- The document that a number is. -/
def Numeral.value (numeral : Numeral) : Document :=
  let n := Nat.ofDigitChars 10 numeral.whole 0
  if numeral.fraction.isNone ∧ numeral.power.isNone ∧ n ≤ greatestSignificand ∧
      (numeral.isNegative → 0 < n ∧ n ≤ Int64.minValue.toInt.natAbs) then
    .integer (if numeral.isNegative then -Int.ofNat n else Int.ofNat n)
  else .real (numeral.toDouble.map (FloatStyle.compact.render numeral.isNegative))

end Ramp.Json
