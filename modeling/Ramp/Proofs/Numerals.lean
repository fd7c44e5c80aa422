import Ramp.Decimal.Numeral
import Ramp.Text.Blank

/-!
# `Proofs.Numerals` — integers written in decimal and read again

An integer is written without a plus sign and without leading zeros; the readers take more than
that. What is written is read back as long as the limits of the reader allow the integer. The other
way round only the alphabet matters here: whatever a reader accepts consists of digits and signs, so
there is nothing to trim.

## Contents
- `accumulate_of_isDigit`: digits are worth what they are worth, if that is within the limit.
- `isDigit_or_eq_of_mem_repr`, `repr_ne_nil`: what an integer is written with.
- `readNat_repr`, `readInt_repr`: what is written is read back.
- `trimChars_of_readNat`, `trimChars_of_readInt`: a numeral has no blanks around it.
-/

namespace Ramp.Numeral

variable {limit below above : Nat} {excess : Refusal} {cs : List Char}

/-! ## Digits -/

/-- Digits only make a value greater. -/
theorem le_ofDigitChars (cs : List Char) (value : Nat) : value ≤ Nat.ofDigitChars 10 cs value := by
  induction cs generalizing value with
  | nil => simp
  | cons c rest ih =>
    rw [Nat.ofDigitChars_cons]
    have := ih (10 * value + (c.toNat - '0'.toNat))
    omega

/-- **Digits are read as what they are worth**, if that is within the limit: so is then what the
    first of them are worth. -/
theorem accumulate_of_isDigit (hdigits : ∀ c ∈ cs, c.isDigit = true) {value : Nat}
    (hle : Nat.ofDigitChars 10 cs value ≤ limit) :
    accumulate limit excess value cs = .ok (Nat.ofDigitChars 10 cs value) := by
  induction cs generalizing value with
  | nil => simp [accumulate]
  | cons c rest ih =>
    rw [Nat.ofDigitChars_cons, Nat.mul_comm 10 value] at hle ⊢
    have hnext := Nat.le_trans (le_ofDigitChars rest _) hle
    simp only [accumulate, hdigits c (by simp), if_true, if_pos hnext]
    exact ih (fun d hd => hdigits d (by simp [hd])) hle

theorem magnitude_of_isDigit (hne : cs ≠ []) (hdigits : ∀ c ∈ cs, c.isDigit = true)
    (hle : Nat.ofDigitChars 10 cs 0 ≤ limit) :
    magnitude limit excess cs = .ok (Nat.ofDigitChars 10 cs 0) := by
  cases cs with
  | nil => exact absurd rfl hne
  | cons c rest => exact accumulate_of_isDigit hdigits hle

/-- Whatever is accumulated is made of digits. -/
theorem isDigit_of_accumulate {value n : Nat} (h : accumulate limit excess value cs = .ok n) :
    ∀ c ∈ cs, c.isDigit = true := by
  induction cs generalizing value with
  | nil => simp
  | cons c rest ih =>
    simp only [accumulate] at h
    split at h
    · next hdigit =>
      split at h
      · exact List.forall_mem_cons.mpr ⟨hdigit, ih h⟩
      · cases h
    · cases h

theorem isDigit_of_magnitude {n : Nat} (h : magnitude limit excess cs = .ok n) :
    ∀ c ∈ cs, c.isDigit = true := by
  cases cs with
  | nil => cases h
  | cons c rest => exact isDigit_of_accumulate h

/-! ## What is written -/

/-- A natural number is written in digits. -/
theorem isDigit_of_mem_repr {n : Nat} {c : Char} (h : c ∈ n.repr.toList) : c.isDigit = true := by
  rw [Nat.toList_repr] at h
  exact Nat.isDigit_of_mem_toDigits (by decide) (by decide) h

/-- An integer is written in digits, with a minus sign in front of them or not. -/
theorem isDigit_or_eq_of_mem_repr {n : Int} {c : Char} (h : c ∈ n.repr.toList) :
    c.isDigit = true ∨ c = '-' := by
  cases n with
  | ofNat m => exact Or.inl (isDigit_of_mem_repr h)
  | negSucc m =>
    rw [Int.repr, String.toList_append, List.mem_append] at h
    rcases h with hsign | hdigit
    · exact Or.inr (by simpa using hsign)
    · exact Or.inl (isDigit_of_mem_repr hdigit)

/-- Something is written for every integer. -/
theorem repr_ne_nil (n : Int) : n.repr.toList ≠ [] := by
  cases n with
  | ofNat m => simp [Int.repr, Nat.toDigits_ne_nil]
  | negSucc m => simp [Int.repr]

/-! ## What is written is read back -/

/-- The digits that are written for a natural number are read as it. -/
theorem magnitude_repr {n : Nat} (hle : n ≤ limit) :
    magnitude limit excess n.repr.toList = .ok n := by
  have hvalue : Nat.ofDigitChars 10 n.repr.toList 0 = n := by simp
  have hne : n.repr.toList ≠ [] := by simp [Nat.toDigits_ne_nil]
  rw [magnitude_of_isDigit hne (fun c hc => isDigit_of_mem_repr hc) (by omega), hvalue]

/-- The first character that is written for a natural number is no sign. -/
theorem exists_repr_eq_cons (n : Nat) :
    ∃ c rest, n.repr.toList = c :: rest ∧ c ≠ '+' ∧ c ≠ '-' := by
  cases hrepr : n.repr.toList with
  | nil => simp [Nat.toDigits_ne_nil] at hrepr
  | cons c rest =>
    have hdigit : c.isDigit = true := isDigit_of_mem_repr (n := n) (by simp [hrepr])
    refine ⟨c, rest, rfl, ?_, ?_⟩
    · rintro rfl
      exact absurd hdigit (by decide)
    · rintro rfl
      exact absurd hdigit (by decide)

/-- Without a sign in front the digits are read. -/
theorem readNat_of_ne_plus {c : Char} (hplus : c ≠ '+') (rest : List Char) :
    readNat limit (c :: rest) = magnitude limit .tooLarge (c :: rest) := by
  unfold readNat
  split
  · next h => cases h
  · next h => exact absurd (List.cons.inj h).1 hplus
  · rfl

theorem readInt_of_ne_sign {c : Char} (hplus : c ≠ '+') (hminus : c ≠ '-') (rest : List Char) :
    readInt below above (c :: rest) = Int.ofNat <$> magnitude above .tooLarge (c :: rest) := by
  unfold readInt
  split
  · next h => cases h
  · next h => exact absurd (List.cons.inj h).1 hplus
  · next h => exact absurd (List.cons.inj h).1 hminus
  · rfl

/-- **A natural number that is written is read back**, up to the limit. -/
theorem readNat_repr {n : Nat} (hle : n ≤ limit) : readNat limit n.repr.toList = .ok n := by
  have hread : magnitude limit .tooLarge n.repr.toList = .ok n := magnitude_repr hle
  obtain ⟨c, rest, hrepr, hplus, -⟩ := exists_repr_eq_cons n
  rw [hrepr] at hread ⊢
  rw [readNat_of_ne_plus hplus, hread]

/-- **An integer that is written is read back**, between the limits. -/
theorem readInt_repr {n : Int} (hbelow : -(below : Int) ≤ n) (habove : n ≤ above) :
    readInt below above n.repr.toList = .ok n := by
  cases n with
  | ofNat m =>
    have hread : magnitude above .tooLarge m.repr.toList = .ok m :=
      magnitude_repr (Int.ofNat_le.mp habove)
    obtain ⟨c, rest, hrepr, hplus, hminus⟩ := exists_repr_eq_cons m
    rw [hrepr] at hread
    rw [Int.repr, hrepr, readInt_of_ne_sign hplus hminus, hread]
    rfl
  | negSucc m =>
    -- behind the minus sign stand the digits of the next number, which the lower limit allows
    have hread : magnitude below .tooSmall (m + 1).repr.toList = .ok (m + 1) :=
      magnitude_repr (by omega)
    have hrepr : (Int.negSucc m).repr.toList = '-' :: (m + 1).repr.toList := by
      simp [Int.repr]
    rw [hrepr, readInt, hread]
    rfl

/-! ## What is read has no blanks around it -/

/-- **Whatever is read without a minus sign consists of digits and plus signs.** -/
theorem isDigit_or_eq_of_readNat {n : Nat} (h : readNat limit cs = .ok n) :
    ∀ c ∈ cs, c.isDigit = true ∨ c = '+' := by
  unfold readNat at h
  split at h
  · cases h
  · exact List.forall_mem_cons.mpr ⟨Or.inr rfl, fun c hc => Or.inl (isDigit_of_magnitude h c hc)⟩
  · exact fun c hc => Or.inl (isDigit_of_magnitude h c hc)

/-- A reading that is turned into something was a reading. -/
theorem exists_of_map_eq_ok {α β : Type} {f : α → β} {reading : Except Refusal α} {b : β}
    (h : f <$> reading = .ok b) : ∃ a, reading = .ok a ∧ f a = b := by
  cases reading with
  | ok a => exact ⟨a, rfl, Except.ok.inj h⟩
  | error why => cases h

/-- What is read as an image of a magnitude is made of digits. -/
theorem isDigit_of_map_magnitude {f : Nat → Int} {n : Int}
    (h : f <$> magnitude limit excess cs = .ok n) : ∀ c ∈ cs, c.isDigit = true := by
  obtain ⟨m, hread, -⟩ := exists_of_map_eq_ok h
  exact isDigit_of_magnitude hread

/-- **Whatever is read with either sign consists of digits and signs.** -/
theorem isDigit_or_eq_of_readInt {n : Int} (h : readInt below above cs = .ok n) :
    ∀ c ∈ cs, c.isDigit = true ∨ c = '+' ∨ c = '-' := by
  unfold readInt at h
  split at h
  · cases h
  · exact List.forall_mem_cons.mpr
      ⟨Or.inr (Or.inl rfl), fun c hc => Or.inl (isDigit_of_map_magnitude h c hc)⟩
  · exact List.forall_mem_cons.mpr
      ⟨Or.inr (Or.inr rfl), fun c hc => Or.inl (isDigit_of_map_magnitude h c hc)⟩
  · exact fun c hc => Or.inl (isDigit_of_map_magnitude h c hc)

/-- A digit is no blank. -/
theorem isBlank_of_isDigit {c : Char} (h : c.isDigit = true) : Text.isBlank c = false := by
  simp only [Char.isDigit, Bool.and_eq_true, decide_eq_true_eq, UInt32.le_iff_toNat_le] at h
  have hlow : 48 ≤ c.toNat := h.1
  have hhigh : c.toNat ≤ 57 := h.2
  simp only [Text.isBlank, Bool.or_eq_false_iff, Bool.and_eq_false_iff, decide_eq_false_iff_not,
    beq_eq_false_iff_ne]
  omega

/-- A text without blanks is trimmed already. -/
theorem trimChars_of_not_isBlank (h : ∀ c ∈ cs, Text.isBlank c = false) : Text.trimChars cs = cs :=
  Text.trimChars_eq_self (fun c hc => h c (List.mem_of_mem_head? hc))
    fun c hc => h c (List.mem_of_getLast? hc)

/-- **There is nothing to trim from a numeral**, for either reader. -/
theorem trimChars_of_readNat {n : Nat} (h : readNat limit cs = .ok n) : Text.trimChars cs = cs := by
  refine trimChars_of_not_isBlank fun c hc => ?_
  rcases isDigit_or_eq_of_readNat h c hc with hdigit | rfl
  · exact isBlank_of_isDigit hdigit
  · decide

theorem trimChars_of_readInt {n : Int} (h : readInt below above cs = .ok n) :
    Text.trimChars cs = cs := by
  refine trimChars_of_not_isBlank fun c hc => ?_
  rcases isDigit_or_eq_of_readInt h c hc with hdigit | rfl | rfl
  · exact isBlank_of_isDigit hdigit
  · decide
  · decide

end Ramp.Numeral
