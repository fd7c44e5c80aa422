/-!
# `Decimal.Numeral` — reading bounded integers

A numeral is an optional sign and one or more ASCII digits. It is read from left to right, and the
first problem met is the one reported: at each character a character that is no digit comes before
a value that has grown out of range.

## Contents
- `Refusal` and its wording.
- `accumulate`, `magnitude`: digits up to a limit.
- `readNat`: an optional `+`, then digits.
- `readInt`: an optional `+` or `-`, then digits, with a limit on either side of zero.
- `accumulate_le`, `readNat_le`: what is read is within its limit.
-/

namespace Ramp.Numeral

/-- Why a text is no numeral of the wanted range. -/
inductive Refusal where
  | empty
  | invalidDigit
  | tooLarge
  | tooSmall
  deriving DecidableEq, Repr

/-- The wording of a refusal. -/
def Refusal.message : Refusal → String
  | .empty => "cannot parse integer from empty string"
  | .invalidDigit => "invalid digit found in string"
  | .tooLarge => "number too large to fit in target type"
  | .tooSmall => "number too small to fit in target type"

/-- Reads digits behind digits worth `value`; the value may never exceed `limit`, and `excess` is
    reported as soon as it does. -/
def accumulate (limit : Nat) (excess : Refusal) : Nat → List Char → Except Refusal Nat
  | value, [] => .ok value
  | value, c :: rest =>
    if c.isDigit then
      let next := value * 10 + (c.toNat - '0'.toNat)
      if next ≤ limit then accumulate limit excess next rest else .error excess
    else .error .invalidDigit

/-- Reads one digit or more, as a value up to `limit`. -/
def magnitude (limit : Nat) (excess : Refusal) : List Char → Except Refusal Nat
  | [] => .error .invalidDigit
  | cs => accumulate limit excess 0 cs

/-- Reads a numeral without a minus sign, as a value up to `limit`. -/
def readNat (limit : Nat) : List Char → Except Refusal Nat
  | [] => .error .empty
  | '+' :: rest => magnitude limit .tooLarge rest
  | cs => magnitude limit .tooLarge cs

/-- Reads a numeral of either sign, from `-below` up to `above`. -/
def readInt (below above : Nat) : List Char → Except Refusal Int
  | [] => .error .empty
  | '+' :: rest => Int.ofNat <$> magnitude above .tooLarge rest
  | '-' :: rest => (fun n => -Int.ofNat n) <$> magnitude below .tooSmall rest
  | cs => Int.ofNat <$> magnitude above .tooLarge cs

/-- What is accumulated stays within its limit. -/
theorem accumulate_le {limit : Nat} {excess : Refusal} {cs : List Char} {value n : Nat}
    (hvalue : value ≤ limit) (h : accumulate limit excess value cs = .ok n) : n ≤ limit := by
  induction cs generalizing value with
  | nil =>
    simp only [accumulate, Except.ok.injEq] at h
    omega
  | cons c rest ih =>
    simp only [accumulate] at h
    split at h
    · split at h
      · rename_i hnext
        exact ih hnext h
      · cases h
    · cases h

theorem magnitude_le {limit : Nat} {excess : Refusal} {cs : List Char} {n : Nat}
    (h : magnitude limit excess cs = .ok n) : n ≤ limit := by
  cases cs with
  | nil => cases h
  | cons c rest => exact accumulate_le (Nat.zero_le _) h

/-- A numeral that is read is within its limit. -/
theorem readNat_le {limit : Nat} {cs : List Char} {n : Nat} (h : readNat limit cs = .ok n) :
    n ≤ limit := by
  unfold readNat at h
  split at h
  · cases h
  · exact magnitude_le h
  · exact magnitude_le h

end Ramp.Numeral
