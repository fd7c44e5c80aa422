import Ramp.Decimal.Double
import Ramp.Decimal.Numeral
import Ramp.Log.Field
import Ramp.Text.Pattern.Meaning
import Ramp.Text.Split

/-!
# `Log.Condition` — what is asked of a field

A condition asks for a field by its name, and may ask that its value equals a number or fits a
pattern. Conditions are ordered, so that two of them can be told apart.

## Contents
- `ValueCondition` with `ofText?`, `text`, `order` and `holds`.
- `FieldCondition` with `ofText?`, `text` and `order`.
-/

namespace Ramp.Log

/-- What is asked of a value. -/
inductive ValueCondition where
  | flag (value : Bool)
  | real (value : Double)
  /-- A number that is written without a minus sign. -/
  | unsigned (n : Nat)
  /-- A number that is written with a minus sign. -/
  | signed (n : Int)
  /-- A pattern that the text of the value fits. -/
  | pattern (source : String)
  deriving DecidableEq, Repr

namespace ValueCondition

/-- The condition that a text gives: the first kind of value that it can be read as, or else a
    pattern. -/
def ofText? (s : String) : Option ValueCondition :=
  if s == "true" then some (flag true)
  else if s == "false" then some (flag false)
  else
    match Numeral.readNat (UInt64.size - 1) s.toList with
    | .ok n => some (unsigned n)
    | .error _ =>
      match Numeral.readInt Int64.minValue.toInt.natAbs Int64.maxValue.toInt.natAbs s.toList with
      | .ok n => some (signed n)
      | .error _ =>
        match Double.ofText? s with
        | some x => some (real x)
        | none => if (Text.Pattern.ofText? s).isSome then some (pattern s) else none

/-- How a condition is written. -/
def text : ValueCondition → String
  | flag value => if value then "true" else "false"
  | real value => value.text
  | unsigned n => n.repr
  | signed n => n.repr
  | pattern source => source

/-- The place of a kind of condition among the kinds. -/
def kindRank : ValueCondition → Nat
  | flag _ => 0
  | real _ => 1
  | unsigned _ => 2
  | signed _ => 3
  | pattern _ => 4

/-- Compares conditions, by their kinds and then by their values. -/
def order : ValueCondition → ValueCondition → Ordering
  | flag a, flag b => compareOfLessAndEq a.toNat b.toNat
  | real a, real b => compareOfLessAndEq a.rank b.rank
  | unsigned a, unsigned b => compareOfLessAndEq a b
  | signed a, signed b => compareOfLessAndEq a b
  | pattern a, pattern b => compareOfLessAndEq a b
  | a, b => compareOfLessAndEq a.kindRank b.kindRank

/-- Whether a value is as asked for. Numbers that are never negative are not compared with numerals
    that have a minus sign, and only texts are compared with patterns. -/
def holds : ValueCondition → FieldValue → Bool
  | unsigned n, .number m => m == Int.ofNat n
  | unsigned n, .count m => m == n
  | signed n, .number m => m == n
  | pattern source, .text s => (Text.Pattern.ofText? source).any fun p => p.fits s
  | _, _ => false

end ValueCondition

/-- What is asked of a field. -/
structure FieldCondition where
  name : String
  /-- What is asked of its value; `none` stands for any value. -/
  value : Option ValueCondition
  deriving DecidableEq, Repr

namespace FieldCondition

/-- The condition that a text gives: a name, or a name, an equals sign and a value. -/
def ofText? (s : String) : Option FieldCondition :=
  if s.isEmpty then none
  else
    match Text.split '=' s with
    | name :: value :: _ => (ValueCondition.ofText? value).map fun value => ⟨name, some value⟩
    | _ => some ⟨s, none⟩

/-- How a condition is written. -/
def text (condition : FieldCondition) : String :=
  match condition.value with
  | none => condition.name
  | some value => condition.name ++ "=" ++ value.text

/-- Compares conditions: one without a value comes before one with a value. -/
def order (c d : FieldCondition) : Ordering :=
  (compareOfLessAndEq c.value.isSome.toNat d.value.isSome.toNat).then <|
    (compareOfLessAndEq c.name d.name).then <|
      match c.value, d.value with
      | some v, some w => v.order w
      | _, _ => .eq

/-- Whether there is a field with the name. -/
def isFor (condition : FieldCondition) (names : List String) : Bool :=
  names.contains condition.name

/-- Whether a field with the name is as asked for. -/
def holds (condition : FieldCondition) (fields : Fields) : Bool :=
  (fields.lookup condition.name).any fun found =>
    condition.value.all fun wanted => wanted.holds found

end FieldCondition

end Ramp.Log
