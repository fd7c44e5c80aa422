import Ramp.Decimal.FloatText
import Ramp.Document.Basic
import Ramp.Text.Hex
import Ramp.Toml.Filler

/-!
# `Toml.Number` — numbers

Single underscores may stand between digits. Integers have 64 bits; a number with a point or an
exponent is the nearest double.

## Contents
- `group`: digits with underscores between them.
- `integer`: in decimal, or without a sign in base 16, 8 or 2.
- `real`: with a point, an exponent or both, or `inf` or `nan`.
-/

namespace Ramp.Toml

open Reader

/-- One digit or more, with single underscores between them. -/
def group (isDigit : Char → Bool) : Reader (List Char) := do
  let first ← one isDigit
  let rest ← many (one isDigit <|> (do mark "_"; one isDigit))
  return first :: rest

/-- A sign, if there is one; whether it is a minus. -/
def sign : Reader Bool :=
  (do mark "-"; return true) <|> (do mark "+"; return false) <|> pure false

/-- A whole number: a zero, or digits that do not start with a zero. -/
def whole : Reader (List Char) :=
  (do mark "0"; return ['0']) <|> group Char.isDigit

/-- The value of digits in a base. -/
def digitsValue (base : Nat) (digits : List Char) : Nat :=
  digits.foldl (fun n c => n * base + (Text.hexDigit? c).getD 0) 0

/-- An integer of 64 bits. -/
def bounded (n : Int) : Reader Document :=
  if Int64.minValue.toInt ≤ n ∧ n ≤ Int64.maxValue.toInt then return .integer n else failure

/-- An integer in a base other than ten, behind the mark of the base. -/
def based (start : String) (base : Nat) : Reader Document := do
  mark start
  let digits ← group fun c => (Text.hexDigit? c).any (· < base)
  bounded (Int.ofNat (digitsValue base digits))

/-- An integer in decimal. -/
def decimal : Reader Document := do
  let isNegative ← sign
  let n := Int.ofNat (digitsValue 10 (← whole))
  bounded (if isNegative then -n else n)

/-- An integer. -/
def integer : Reader Document :=
  based "0x" 16 <|> based "0o" 8 <|> based "0b" 2 <|> decimal

/-- The mark of an exponent and the exponent. -/
def exponent : Reader Int := do
  mark "e" <|> mark "E"
  let isNegative ← sign
  let n := Int.ofNat (digitsValue 10 (← group Char.isDigit))
  return if isNegative then -n else n

/-- A point and the digits behind it. -/
def fraction : Reader (List Char) := do
  mark "."
  group Char.isDigit

/-- A number with a point, an exponent or both. One that exceeds every double is refused, unless it
    is negative. -/
def finite : Reader Document := do
  let isNegative ← sign
  let whole ← whole
  let fraction ← optional fraction
  let power ← if fraction.isSome then optional exponent else some <$> exponent
  let places := fraction.getD []
  let digits := digitsValue 10 (whole ++ places)
  match Binary64.ofDecimal digits (power.getD 0 - Int.ofNat places.length) with
  | some x => return .real (some (FloatStyle.pointed.render isNegative x))
  | none => if isNegative then return .real (some "-inf") else failure

/-- Infinity, or no number at all. -/
def special : Reader Document := do
  let isNegative ← sign
  (do mark "inf"; return .real (some (if isNegative then "-inf" else "inf"))) <|>
    (do mark "nan"; return .real (some "NaN"))

/-- A number that is no integer. -/
def real : Reader Document :=
  finite <|> special

end Ramp.Toml
