import Mathlib.Data.List.Induction
import Ramp.Proofs.JsonWords

/-!
# `Proofs.JsonNumbers` — which JSON numbers are integers

A number is taken off the front of a text part by part. What is taken is told from its parts here:
the sign, a whole number, and behind it nothing unless there is a fraction or an exponent
(`lexNumeral_eq_some`). A whole number has no zero in front, so it is spelled as it would be
written, and with it the whole number with its sign if that is not a zero.

## Contents
- `exists_repr_eq`: digits without a zero in front are those of a number.
- `lexWhole_eq_some`, `lexFraction_eq_some` and `lexPower_eq_some`: what each part takes;
  `lexNumeral_eq_some`: what a number takes.
- `value_eq_integer_iff`: the main result.
-/

namespace Ramp.Json

variable {cs rest : List Char}

/-! ## Digits -/

/-- A digit is the one digit of a number. -/
theorem exists_digitChar_eq {c : Char} (h : c.isDigit = true) : ∃ d < 10, c = Nat.digitChar d := by
  obtain ⟨hlow, hhigh⟩ : 48 ≤ c.toNat ∧ c.toNat ≤ 57 := by
    simpa [Char.isDigit, Char.le_def, UInt32.le_iff_toNat_le] using h
  refine ⟨c.toNat - 48, by omega, Char.toNat_inj.mp ?_⟩
  rw [Nat.toNat_digitChar_of_lt_ten (by omega)]
  omega

/-- **Digits without a zero in front are those of a number.** -/
theorem exists_repr_eq {digits : List Char} (hne : digits ≠ [])
    (hdigits : ∀ c ∈ digits, c.isDigit = true) (hhead : digits.head? ≠ some '0') :
    ∃ n : Nat, 0 < n ∧ digits = n.repr.toList := by
  -- the induction takes off the last digit, as writing a number does
  induction digits using List.reverseRecOn with
  | nil => exact absurd rfl hne
  | append_singleton init c ih =>
    obtain ⟨d, hd, rfl⟩ := exists_digitChar_eq (hdigits c (by simp))
    by_cases hinit : init = []
    · subst hinit
      refine ⟨d, Nat.pos_of_ne_zero fun h => hhead (by simp [h]), ?_⟩
      rw [Nat.toList_repr, Nat.toDigits_of_lt_base hd, List.nil_append]
    · rw [List.head?_append_of_ne_nil _ hinit] at hhead
      obtain ⟨n, hpos, rfl⟩ := ih hinit (fun c hc => hdigits c (by simp [hc])) hhead
      refine ⟨10 * n + d, by omega, ?_⟩
      rw [Nat.toList_repr, Nat.toList_repr, ← Nat.toDigits_append_toDigits (by decide) hpos hd,
        Nat.toDigits_of_lt_base hd]

/-! ## The parts of a number -/

theorem lexDigits_eq_some {digits : List Char} (h : lexDigits cs = some (digits, rest)) :
    cs = digits ++ rest ∧ digits ≠ [] ∧ ∀ c ∈ digits, c.isDigit = true := by
  unfold lexDigits at h
  split at h
  · cases h
  · next hne =>
    cases h
    exact ⟨List.takeWhile_append_dropWhile.symm, hne,
      List.all_eq_true.mp List.all_takeWhile⟩

/-- A whole number is spelled as it would be written. -/
theorem lexWhole_eq_some {whole : List Char} (h : lexWhole cs = some (whole, rest)) :
    ∃ n : Nat, whole = n.repr.toList ∧ cs = n.repr.toList ++ rest := by
  unfold lexWhole at h
  split at h
  · split at h
    · cases h
    · cases h
      exact ⟨0, rfl, rfl⟩
  · next hzero =>
    obtain ⟨rfl, hne, hdigits⟩ := lexDigits_eq_some h
    obtain ⟨n, -, rfl⟩ := exists_repr_eq hne hdigits fun hhead => by
      obtain ⟨tail, htail⟩ := List.head?_eq_some_iff.mp hhead
      exact hzero (tail ++ rest) (by rw [htail, List.cons_append])
    exact ⟨n, rfl, rfl⟩

/-- What stands behind a whole number as a part of it: nothing, or something that starts with no
    digit. -/
def IsTail (tail : List Char) : Prop :=
  ∀ c ∈ tail.head?, c = '.' ∨ c = 'e' ∨ c = 'E'

theorem lexFraction_eq_some {fraction : Option (List Char)}
    (h : lexFraction cs = some (fraction, rest)) :
    ∃ tail, cs = tail ++ rest ∧ (tail = [] ↔ fraction = none) ∧ ∀ c ∈ tail.head?, c = '.' := by
  unfold lexFraction at h
  split at h
  · next behind =>
    obtain ⟨⟨digits, after⟩, hdigits, h⟩ := Option.map_eq_some_iff.mp h
    cases h
    obtain ⟨rfl, -, -⟩ := lexDigits_eq_some hdigits
    exact ⟨'.' :: digits, rfl, by simp, by simp⟩
  · cases h
    exact ⟨[], rfl, by simp, by simp⟩

theorem lexPower_eq_some {power : Option (Bool × List Char)}
    (h : lexPower cs = some (power, rest)) :
    ∃ tail, cs = tail ++ rest ∧ (tail = [] ↔ power = none) ∧
      ∀ c ∈ tail.head?, c = 'e' ∨ c = 'E' := by
  unfold lexPower at h
  split at h
  · cases h
    exact ⟨[], rfl, by simp, by simp⟩
  · next mark behind =>
    split at h
    · next hmark =>
      obtain ⟨⟨digits, after⟩, hdigits, h⟩ := Option.map_eq_some_iff.mp h
      cases h
      obtain ⟨hdigits, -, -⟩ := lexDigits_eq_some hdigits
      split at hdigits
      · exact ⟨mark :: '-' :: digits, by simp_all, by simp, by simpa using hmark⟩
      · exact ⟨mark :: '+' :: digits, by simp_all, by simp, by simpa using hmark⟩
      · exact ⟨mark :: digits, by simp_all, by simp, by simpa using hmark⟩
    · cases h
      exact ⟨[], rfl, by simp, by simp⟩

/-- **What a number takes off a text.** -/
theorem lexNumeral_eq_some {numeral : Numeral} (h : lexNumeral cs = some (numeral, rest)) :
    ∃ (isNegative : Bool) (n : Nat) (fraction : Option (List Char))
      (power : Option (Bool × List Char)) (tail : List Char),
      numeral = ⟨isNegative, n.repr.toList, fraction, power⟩ ∧
      cs = (if isNegative then ['-'] else []) ++ n.repr.toList ++ tail ++ rest ∧
      (tail = [] ↔ fraction = none ∧ power = none) ∧ IsTail tail := by
  unfold lexNumeral at h
  split at h
  next isNegative unsigned hsign =>
  simp only [Option.bind_eq_bind, Option.bind_eq_some_iff] at h
  obtain ⟨⟨whole, behindWhole⟩, hwhole, ⟨fraction, behindFraction⟩, hfraction, ⟨power, last⟩,
    hpower, h⟩ := h
  cases h
  obtain ⟨n, rfl, rfl⟩ := lexWhole_eq_some hwhole
  obtain ⟨point, rfl, hpoint, hpointHead⟩ := lexFraction_eq_some hfraction
  obtain ⟨scale, rfl, hscale, hscaleHead⟩ := lexPower_eq_some hpower
  refine ⟨isNegative, n, fraction, power, point ++ scale, rfl, ?_, ?_, ?_⟩
  · split at hsign
    · cases hsign
      simp
    · cases hsign
      simp
  · rw [List.append_eq_nil_iff, hpoint, hscale]
  · cases point with
    | nil => exact fun c hc => Or.inr (hscaleHead c hc)
    | cons d point => exact fun c hc => Or.inl (hpointHead c hc)

/-! ## Integers -/

/-- A minus is no digit. -/
theorem minus_notMem_repr (n : Nat) : '-' ∉ n.repr.toList := by
  intro h
  exact absurd (Numeral.isDigit_of_mem_repr h) (by decide)

theorem repr_negSucc (m : Nat) : (Int.negSucc m).repr.toList = '-' :: (m + 1).repr.toList := by
  simp [Int.repr]

/-- Nothing stands behind a number that is spelled as an integer. -/
theorem eq_nil_of_isTail {tail before : List Char} {z : Int} (h : IsTail tail)
    (hrepr : z.repr.toList = before ++ tail) : tail = [] := by
  cases tail with
  | nil => rfl
  | cons c tail =>
    have hmem : c ∈ z.repr.toList := by simp [hrepr]
    have hdigit := Numeral.isDigit_or_eq_of_mem_repr hmem
    rcases h c rfl with rfl | rfl | rfl <;> exact absurd hdigit (by decide)

/-- The parts of a number that is spelled as an integer are those of the integer. -/
theorem eq_ofInt_of_repr {numeral : Numeral} {z : Int}
    (h : lexNumeral (z.repr.toList ++ rest) = some (numeral, rest)) :
    numeral = Numeral.ofInt z := by
  obtain ⟨isNegative, n, fraction, power, tail, rfl, hchars, htail, hhead⟩ := lexNumeral_eq_some h
  have hchars := List.append_cancel_right hchars
  have hnil := eq_nil_of_isTail hhead hchars
  obtain ⟨rfl, rfl⟩ := htail.mp hnil
  rw [hnil, List.append_nil] at hchars
  cases z with
  | ofNat m =>
    have hrepr : (Int.ofNat m).repr = m.repr := rfl
    rw [hrepr] at hchars
    cases isNegative with
    | true =>
      have hminus : '-' ∈ m.repr.toList := by rw [hchars]; exact List.mem_cons_self
      exact absurd hminus (minus_notMem_repr m)
    | false =>
      rw [Numeral.ofInt, hchars]
      rfl
  | negSucc m =>
    rw [repr_negSucc] at hchars
    cases isNegative with
    | true =>
      have hdigits : (m + 1).repr.toList = n.repr.toList := (List.cons.inj hchars).2
      rw [Numeral.ofInt, hdigits]
    | false =>
      have hminus : '-' ∈ n.repr.toList := by
        have hsame : n.repr.toList = '-' :: (m + 1).repr.toList := hchars.symm
        rw [hsame]
        exact List.mem_cons_self
      exact absurd hminus (minus_notMem_repr n)

/-- What a number is worth that is an integer, and how it is spelled. -/
theorem repr_of_value {isNegative : Bool} {n : Nat} {fraction : Option (List Char)}
    {power : Option (Bool × List Char)} {z : Int}
    (h : (Numeral.mk isNegative n.repr.toList fraction power).value = .integer z) :
    fraction = none ∧ power = none ∧
      z.repr.toList = (if isNegative then ['-'] else []) ++ n.repr.toList ∧
      Int64.minValue.toInt ≤ z ∧ z < UInt64.size := by
  have hdigits : Nat.ofDigitChars 10 n.repr.toList 0 = n := by simp
  have hmin : Int64.minValue.toInt = -9223372036854775808 := rfl
  have hsize : UInt64.size = 18446744073709551616 := rfl
  have hgreatest : greatestSignificand = 18446744073709551615 := rfl
  simp only [Numeral.value, hdigits] at h
  by_cases hfits : fraction.isNone ∧ power.isNone ∧ n ≤ greatestSignificand ∧
      (isNegative → 0 < n ∧ n ≤ Int64.minValue.toInt.natAbs)
  · rw [if_pos hfits] at h
    obtain ⟨hfraction, hpower, hle, hleast⟩ := hfits
    refine ⟨Option.isNone_iff_eq_none.mp hfraction, Option.isNone_iff_eq_none.mp hpower, ?_⟩
    rw [hmin] at hleast ⊢
    cases isNegative with
    | false =>
      cases h
      refine ⟨rfl, ?_⟩
      rw [if_neg Bool.false_ne_true, Int.ofNat_eq_natCast]
      omega
    | true =>
      cases h
      obtain ⟨hpos, hleast⟩ := hleast rfl
      obtain ⟨m, rfl⟩ := Nat.exists_eq_add_one_of_ne_zero (Nat.pos_iff_ne_zero.mp hpos)
      refine ⟨repr_negSucc m, ?_⟩
      rw [if_pos rfl, Int.ofNat_eq_natCast]
      omega
  · rw [if_neg hfits] at h
    cases h

/-! ## Main result -/

/-- **A number is an integer exactly when it is spelled as one that fits 64 bits**, signed or
    unsigned. So none is an integer that has a fraction or an exponent, nor a zero with a minus in
    front. -/
theorem value_eq_integer_iff {numeral : Numeral} (h : lexNumeral cs = some (numeral, rest))
    {z : Int} :
    numeral.value = .integer z ↔
      cs = z.repr.toList ++ rest ∧ Int64.minValue.toInt ≤ z ∧ z < UInt64.size := by
  constructor
  · intro hvalue
    obtain ⟨isNegative, n, fraction, power, tail, rfl, hchars, htail, -⟩ := lexNumeral_eq_some h
    obtain ⟨rfl, rfl, hrepr, hlow, hhigh⟩ := repr_of_value hvalue
    rw [htail.mpr ⟨rfl, rfl⟩, List.append_nil, ← hrepr] at hchars
    exact ⟨hchars, hlow, hhigh⟩
  · rintro ⟨rfl, hlow, hhigh⟩
    rw [eq_ofInt_of_repr h]
    exact value_ofInt hlow hhigh

end Ramp.Json
