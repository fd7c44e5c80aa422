import Ramp.Named

/-!
# `ElementType.Basic` — the ten integer types a sequence can have

A type is a width and a signedness; `isize` and `usize` are 64 bits wide.

## Contents
- `ElementType`, its `Named` instance and its default.
- `bits`, `bytes`, `isSigned`, `span`, and the bounds `least` and `greatest`.
- `greatest_eq`: the bounds span exactly `2 ^ bits` integers.
- `least_le_zero`, `zero_le_greatest`: zero belongs to every type.
-/

namespace Ramp

/-- The type of every element of a sequence. -/
inductive ElementType where
  | i8
  | i16
  | i32
  | i64
  | isize
  | u8
  | u16
  | u32
  | u64
  | usize
  deriving DecidableEq, Repr

namespace ElementType

instance : Inhabited ElementType := ⟨.i32⟩

/-- All types, signed ones first and narrow ones before wide ones. -/
def all : List ElementType :=
  [.i8, .i16, .i32, .i64, .isize, .u8, .u16, .u32, .u64, .usize]

/-- How a type is written. -/
def name : ElementType → String
  | .i8 => "i8"
  | .i16 => "i16"
  | .i32 => "i32"
  | .i64 => "i64"
  | .isize => "isize"
  | .u8 => "u8"
  | .u16 => "u16"
  | .u32 => "u32"
  | .u64 => "u64"
  | .usize => "usize"

instance : Named ElementType where
  all := all
  name := name
  mem_all a := by cases a <;> decide
  name_inj a b h := by revert h; cases a <;> cases b <;> decide
  normalize_name a := by cases a <;> rfl

/-- The width of a value in bits. -/
def bits : ElementType → Nat
  | .i8 | .u8 => 8
  | .i16 | .u16 => 16
  | .i32 | .u32 => 32
  | .i64 | .isize | .u64 | .usize => 64

/-- The width of a value in bytes. -/
def bytes (ty : ElementType) : Nat :=
  ty.bits / 8

/-- Whether the type has negative values. -/
def isSigned : ElementType → Bool
  | .i8 | .i16 | .i32 | .i64 | .isize => true
  | .u8 | .u16 | .u32 | .u64 | .usize => false

/-- How many values a type has: `2 ^ bits`. -/
def span (ty : ElementType) : Int :=
  Int.ofNat (Nat.pow 2 ty.bits)

/-- The least value of a type: a signed type has as many values below zero as not. -/
def least (ty : ElementType) : Int :=
  if ty.isSigned then -(ty.span / 2) else 0

/-- The greatest value of a type. -/
def greatest (ty : ElementType) : Int :=
  if ty.isSigned then ty.span / 2 - 1 else ty.span - 1

theorem span_pos (ty : ElementType) : 0 < ty.span := by
  cases ty <;> decide

/-- The values of a type are the `span` integers from `least` upwards. -/
theorem greatest_eq (ty : ElementType) : ty.greatest = ty.least + ty.span - 1 := by
  cases ty <;> decide

theorem least_le_zero (ty : ElementType) : ty.least ≤ 0 := by
  cases ty <;> decide

theorem zero_le_greatest (ty : ElementType) : 0 ≤ ty.greatest := by
  cases ty <;> decide

end ElementType

end Ramp
