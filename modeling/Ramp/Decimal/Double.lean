import Ramp.Decimal.FloatText
import Ramp.Reader
import Ramp.Text.Normal

/-!
# `Decimal.Double` — doubles with signs, and those that are no numbers

## Contents
- `Double` with `Double.text` and `Double.rank`, its place among all doubles.
- `Double.ofText?`: reads a decimal numeral, or a word for infinity or for no number.
-/

namespace Ramp

/-- A double. -/
inductive Double where
  | nan
  | infinite (isNegative : Bool)
  | finite (isNegative : Bool) (magnitude : Binary64)
  deriving DecidableEq, Repr

namespace Double

/-- How a double is written. -/
def text : Double → String
  | nan => "NaN"
  | infinite isNegative => if isNegative then "-inf" else "inf"
  | finite isNegative magnitude => FloatStyle.amount.render isNegative magnitude

/-- The place of a magnitude among all of them. -/
def magnitudeRank (x : Binary64) : Nat :=
  (x.exponent - Binary64.leastExponent).toNat * (2 * Binary64.leastNormal) + x.significand

/-- More than the rank of every magnitude. -/
def infiniteRank : Nat :=
  magnitudeRank ⟨0, Binary64.greatestExponent + 1⟩

/-- The place of a double among all of them. The two zeros share one; no number comes last. -/
def rank : Double → Int
  | nan => infiniteRank + 1
  | infinite isNegative => if isNegative then -infiniteRank else infiniteRank
  | finite isNegative x => if isNegative then -magnitudeRank x else magnitudeRank x

open Reader

/-- A sign, if there is one; whether it is a minus. -/
def sign : Reader Bool :=
  (do mark "-"; return true) <|> (do mark "+"; return false) <|> pure false

/-- A power of ten. -/
def power : Reader Int := do
  mark "e" <|> mark "E"
  let isNegative ← sign
  let first ← one Char.isDigit
  let n := Nat.ofDigitChars 10 (first :: (← takeAll Char.isDigit)) 0
  return if isNegative then -Int.ofNat n else Int.ofNat n

/-- Digits, of which some may stand behind a point, and perhaps a power of ten. -/
def numeral : Reader (Option Binary64) := do
  let whole ← takeAll Char.isDigit
  let places ← (do mark "."; takeAll Char.isDigit) <|> pure []
  if whole.isEmpty && places.isEmpty then failure
  else
    let power ← power <|> pure 0
    endOfText
    return Binary64.ofDecimal (Nat.ofDigitChars 10 (whole ++ places) 0)
      (power - Int.ofNat places.length)

/-- A word in place of a numeral, in any case. -/
def special (isNegative : Bool) : Reader Double := do
  match Text.lower (String.ofList (← takeAll fun _ => true)) with
  | "inf" | "infinity" => return .infinite isNegative
  | "nan" => return .nan
  | _ => failure

/-- A double, which is the whole text. -/
def reader : Reader Double := do
  let isNegative ← sign
  (do
    match ← numeral with
    | some x => return .finite isNegative x
    | none => return .infinite isNegative) <|> special isNegative

/-- The double that a text gives: the one nearest to its numeral. -/
def ofText? (s : String) : Option Double :=
  (reader s.toList).map Prod.fst

end Double

end Ramp
