import Ramp.Proofs.Numerals
import Ramp.Proofs.Transcription

/-!
# `Proofs.NumeralGrammar` — which texts are numerals, and what is wrong with the others

The readers of numerals go through the digits once, with a limit checked at each of them. What they
accept has a description without any order of work: a sign that may be left out, one digit or more,
and a value within the range, where the value of the digits goes by their places. What they refuse
has one by the first problem from the left: up to it there are digits whose value is within the
limit, and then there is a character that is no digit, or a digit that exceeds the limit. Digits
behind that one do not matter, and neither do zeros in front.

## Contents
- `worth`, the value of digits by their places; `ofDigitChars_eq_worth`: it is what the loop adds
  up.
- `Stumbles`: the first problem in digits; `magnitude_eq_ok_iff`, `magnitude_eq_error_iff`.
- `Range`, `Spells` and `Refuses`: the grammar of numerals, and the first problem of other texts.
- `readNat_eq_ok_iff` and its siblings: the readers and the grammar.
- `Config.override_only`: a pass with a single text; `Config.ReadsNumeral`: how a text is read for a
  setting that is a numeral, with `readsLength` and `readsStart`.
- `Config.override_numeral`: the two settings that are numerals, from either source.
-/

namespace Ramp

namespace Numeral

variable {limit below above n : Nat} {excess why : Refusal} {cs : List Char}

/-! ## The value of digits -/

/-- The value of digits: each one counts as many times as its place says. -/
def worth : List Char → Nat
  | [] => 0
  | c :: rest => (c.toNat - '0'.toNat) * Nat.pow 10 rest.length + worth rest

/-- What is added up from left to right is the value by places. -/
theorem ofDigitChars_eq (cs : List Char) (value : Nat) :
    Nat.ofDigitChars 10 cs value = value * Nat.pow 10 cs.length + worth cs := by
  induction cs generalizing value with
  | nil =>
    show value = value * 1 + 0
    omega
  | cons c rest ih =>
    show Nat.ofDigitChars 10 (c :: rest) value = value * (Nat.pow 10 rest.length * 10) +
      ((c.toNat - '0'.toNat) * Nat.pow 10 rest.length + worth rest)
    rw [Nat.ofDigitChars_cons, ih, Nat.add_mul, Nat.mul_comm 10 value, Nat.mul_assoc,
      Nat.mul_comm 10 (Nat.pow 10 rest.length)]
    omega

theorem ofDigitChars_eq_worth (cs : List Char) : Nat.ofDigitChars 10 cs 0 = worth cs := by
  rw [ofDigitChars_eq]
  omega

/-- One ASCII digit or more. -/
def AreDigits (cs : List Char) : Prop :=
  cs ≠ [] ∧ ∀ c ∈ cs, c.isDigit = true

theorem areDigits_of_all (hne : cs ≠ []) (h : cs.all Char.isDigit = true) : AreDigits cs :=
  ⟨hne, List.all_eq_true.mp h⟩

/-! ## Digits up to a limit -/

/-- **The first problem in what should be digits**, from the left: there is nothing at all; or
    behind digits whose value is within the limit, there is a character that is no digit, or a digit
    with which the value exceeds the limit. -/
inductive Stumbles (limit : Nat) (excess : Refusal) : List Char → Refusal → Prop
  | nothing : Stumbles limit excess [] .invalidDigit
  | noDigit {good rest : List Char} {c : Char} (hgood : ∀ d ∈ good, d.isDigit = true)
      (hle : worth good ≤ limit) (hc : c.isDigit = false) :
      Stumbles limit excess (good ++ c :: rest) .invalidDigit
  | exceeds {good rest : List Char} {c : Char} (hgood : ∀ d ∈ good, d.isDigit = true)
      (hle : worth good ≤ limit) (hc : c.isDigit = true) (hlt : limit < worth (good ++ [c])) :
      Stumbles limit excess (good ++ c :: rest) excess

/-- Digits whose value is within the limit are left behind. -/
theorem accumulate_append {good : List Char} (hgood : ∀ d ∈ good, d.isDigit = true) {value : Nat}
    (hle : Nat.ofDigitChars 10 good value ≤ limit) (rest : List Char) :
    accumulate limit excess value (good ++ rest) =
      accumulate limit excess (Nat.ofDigitChars 10 good value) rest := by
  induction good generalizing value with
  | nil => simp
  | cons c others ih =>
    rw [Nat.ofDigitChars_cons, Nat.mul_comm 10 value] at hle ⊢
    have hnext := Nat.le_trans (le_ofDigitChars others _) hle
    rw [List.cons_append, accumulate, if_pos (hgood c (by simp))]
    simp only [if_pos hnext]
    exact ih (fun d hd => hgood d (by simp [hd])) hle

/-- **Where the loop ends early.** Behind digits that are within the limit there is a character that
    is no digit, or a digit that exceeds the limit. -/
theorem exists_of_accumulate_eq_error {value : Nat} (hvalue : value ≤ limit)
    (h : accumulate limit excess value cs = .error why) :
    ∃ good c rest, cs = good ++ c :: rest ∧ (∀ d ∈ good, d.isDigit = true) ∧
      Nat.ofDigitChars 10 good value ≤ limit ∧
      (c.isDigit = false ∧ why = .invalidDigit ∨
        c.isDigit = true ∧ limit < Nat.ofDigitChars 10 (good ++ [c]) value ∧ why = excess) := by
  induction cs generalizing value with
  | nil => cases h
  | cons c rest ih =>
    rw [accumulate] at h
    by_cases hdigit : c.isDigit = true
    · rw [if_pos hdigit] at h
      by_cases hnext : value * 10 + (c.toNat - '0'.toNat) ≤ limit
      · simp only [if_pos hnext] at h
        obtain ⟨good, d, after, rfl, hgood, hle, hproblem⟩ := ih hnext h
        rw [Nat.mul_comm value 10] at hle hproblem
        refine ⟨c :: good, d, after, rfl, List.forall_mem_cons.mpr ⟨hdigit, hgood⟩, ?_, ?_⟩
        · rw [Nat.ofDigitChars_cons]
          exact hle
        · rw [List.cons_append, Nat.ofDigitChars_cons]
          exact hproblem
      · simp only [if_neg hnext] at h
        cases h
        refine ⟨[], c, rest, rfl, by simp, by simpa using hvalue, Or.inr ⟨hdigit, ?_, rfl⟩⟩
        rw [List.nil_append, Nat.ofDigitChars_cons, Nat.ofDigitChars_nil]
        omega
    · rw [if_neg hdigit] at h
      cases h
      exact ⟨[], c, rest, rfl, by simp, by simpa using hvalue,
        Or.inl ⟨by simpa using hdigit, rfl⟩⟩

/-- Without a refusal the loop has added up the value of all digits. -/
theorem eq_ofDigitChars_of_accumulate {value : Nat}
    (h : accumulate limit excess value cs = .ok n) : Nat.ofDigitChars 10 cs value = n := by
  induction cs generalizing value with
  | nil =>
    cases h
    exact Nat.ofDigitChars_nil
  | cons c rest ih =>
    simp only [accumulate] at h
    split at h
    · split at h
      · rw [Nat.ofDigitChars_cons, Nat.mul_comm 10 value]
        exact ih h
      · cases h
    · cases h

theorem magnitude_of_ne_nil (hne : cs ≠ []) :
    magnitude limit excess cs = accumulate limit excess 0 cs := by
  cases cs with
  | nil => exact absurd rfl hne
  | cons c rest => rfl

/-- **What digits are read as.** -/
theorem magnitude_eq_ok_iff :
    magnitude limit excess cs = .ok n ↔ AreDigits cs ∧ worth cs = n ∧ n ≤ limit := by
  constructor
  · intro h
    have hle := magnitude_le h
    have hdigits := isDigit_of_magnitude h
    have hne : cs ≠ [] := by
      rintro rfl
      cases h
    rw [magnitude_of_ne_nil hne] at h
    rw [← ofDigitChars_eq_worth]
    exact ⟨⟨hne, hdigits⟩, eq_ofDigitChars_of_accumulate h, hle⟩
  · rintro ⟨⟨hne, hdigits⟩, rfl, hle⟩
    rw [← ofDigitChars_eq_worth] at hle ⊢
    exact magnitude_of_isDigit hne hdigits hle

/-- **Digits are refused for their first problem.** -/
theorem magnitude_eq_error_iff :
    magnitude limit excess cs = .error why ↔ Stumbles limit excess cs why := by
  constructor
  · intro h
    cases cs with
    | nil =>
      cases h
      exact .nothing
    | cons first others =>
      obtain ⟨good, c, rest, hsplit, hgood, hle, hproblem⟩ :=
        exists_of_accumulate_eq_error (Nat.zero_le limit) h
      rw [ofDigitChars_eq_worth] at hle hproblem
      rw [hsplit]
      rcases hproblem with ⟨hc, rfl⟩ | ⟨hc, hlt, rfl⟩
      · exact .noDigit hgood hle hc
      · exact .exceeds hgood hle hc hlt
  · intro h
    cases h with
    | nothing => rfl
    | noDigit hgood hle hc =>
      rw [← ofDigitChars_eq_worth] at hle
      rw [magnitude_of_ne_nil (by simp), accumulate_append hgood hle, accumulate,
        if_neg (by simp [hc])]
    | exceeds hgood hle hc hlt =>
      rw [← ofDigitChars_eq_worth] at hle hlt
      rw [Nat.ofDigitChars_append, Nat.ofDigitChars_cons, Nat.ofDigitChars_nil] at hlt
      rw [magnitude_of_ne_nil (by simp), accumulate_append hgood hle, accumulate, if_pos hc]
      exact if_neg (by omega)

/-! ## Signs -/

/-- The integers that a numeral may stand for. -/
structure Range where
  least : Int
  greatest : Int

/-- **The grammar of numerals**, with the integers that they stand for: a sign or none, one digit or
    more, and a value in the range. There is a minus sign only where there are negative integers. -/
inductive Spells (range : Range) : List Char → Int → Prop
  | plain {digits : List Char} (hdigits : AreDigits digits)
      (hle : (worth digits : Int) ≤ range.greatest) : Spells range digits (worth digits)
  | plus {digits : List Char} (hdigits : AreDigits digits)
      (hle : (worth digits : Int) ≤ range.greatest) : Spells range ('+' :: digits) (worth digits)
  | minus {digits : List Char} (hsign : range.least < 0) (hdigits : AreDigits digits)
      (hle : range.least ≤ -(worth digits : Int)) :
      Spells range ('-' :: digits) (-(worth digits : Int))

/-- **The first problem of a text** that is no numeral of the range: it is empty, or what stands
    behind its sign, or else all of it, stumbles. Behind a minus sign a value is too small, and else
    it is too large. -/
inductive Refuses (range : Range) : List Char → Refusal → Prop
  | empty : Refuses range [] .empty
  | plain {c : Char} {rest : List Char} {why : Refusal} (hplus : c ≠ '+')
      (hminus : range.least < 0 → c ≠ '-')
      (h : Stumbles range.greatest.toNat .tooLarge (c :: rest) why) : Refuses range (c :: rest) why
  | plus {digits : List Char} {why : Refusal}
      (h : Stumbles range.greatest.toNat .tooLarge digits why) : Refuses range ('+' :: digits) why
  | minus {digits : List Char} {why : Refusal} (hsign : range.least < 0)
      (h : Stumbles (-range.least).toNat .tooSmall digits why) : Refuses range ('-' :: digits) why

/-- Digits do not begin with a sign. -/
theorem AreDigits.exists_cons (h : AreDigits cs) :
    ∃ c rest, cs = c :: rest ∧ c ≠ '+' ∧ c ≠ '-' := by
  obtain ⟨hne, hdigits⟩ := h
  cases cs with
  | nil => exact absurd rfl hne
  | cons c rest =>
    have hc : c.isDigit = true := hdigits c (by simp)
    refine ⟨c, rest, rfl, ?_, ?_⟩
    · rintro rfl
      cases hc
    · rintro rfl
      cases hc

/-- A reading that is turned into something is refused as it was before. -/
theorem map_eq_error_iff {α β : Type} {f : α → β} {reading : Except Refusal α} :
    f <$> reading = .error why ↔ reading = .error why := by
  cases reading with
  | ok a => constructor <;> intro h <;> cases h
  | error other => constructor <;> intro h <;> cases h <;> rfl

/-! ## The readers and the grammar -/

/-- **Exactly the numerals without a minus sign are read**, as what they spell. -/
theorem readNat_eq_ok_iff : readNat limit cs = .ok n ↔ Spells ⟨0, limit⟩ cs n := by
  constructor
  · intro h
    unfold readNat at h
    split at h
    · cases h
    · obtain ⟨hdigits, rfl, hle⟩ := magnitude_eq_ok_iff.mp h
      exact .plus hdigits (Int.ofNat_le.mpr hle)
    · obtain ⟨hdigits, rfl, hle⟩ := magnitude_eq_ok_iff.mp h
      exact .plain hdigits (Int.ofNat_le.mpr hle)
  · intro h
    generalize hm : (n : Int) = m at h
    cases h with
    | plain hdigits hle =>
      cases Int.ofNat_inj.mp hm
      obtain ⟨c, rest, rfl, hplus, -⟩ := hdigits.exists_cons
      rw [readNat_of_ne_plus hplus]
      exact magnitude_eq_ok_iff.mpr ⟨hdigits, rfl, Int.ofNat_le.mp hle⟩
    | plus hdigits hle =>
      cases Int.ofNat_inj.mp hm
      exact magnitude_eq_ok_iff.mpr ⟨hdigits, rfl, Int.ofNat_le.mp hle⟩
    | minus hsign => exact absurd hsign (Int.lt_irrefl 0)

/-- **All other texts are refused** for their first problem. -/
theorem readNat_eq_error_iff : readNat limit cs = .error why ↔ Refuses ⟨0, limit⟩ cs why := by
  constructor
  · intro h
    unfold readNat at h
    split at h
    · cases h
      exact .empty
    · exact .plus (magnitude_eq_error_iff.mp h)
    · next hnil hplus =>
      cases cs with
      | nil => exact absurd rfl hnil
      | cons c rest =>
        refine .plain ?_ (fun hsign => absurd hsign (Int.lt_irrefl 0)) (magnitude_eq_error_iff.mp h)
        rintro rfl
        exact hplus rest rfl
  · intro h
    cases h with
    | empty => rfl
    | plain hplus hminus hstumbles =>
      rw [readNat_of_ne_plus hplus]
      exact magnitude_eq_error_iff.mpr hstumbles
    | plus hstumbles => exact magnitude_eq_error_iff.mpr hstumbles
    | minus hsign => exact absurd hsign (Int.lt_irrefl 0)

/-- **Exactly the numerals of either sign are read**, as what they spell. -/
theorem readInt_eq_ok_iff (hbelow : 0 < below) {m : Int} :
    readInt below above cs = .ok m ↔ Spells ⟨-below, above⟩ cs m := by
  constructor
  · intro h
    unfold readInt at h
    split at h
    · cases h
    · obtain ⟨n, hread, rfl⟩ := exists_of_map_eq_ok h
      obtain ⟨hdigits, rfl, hle⟩ := magnitude_eq_ok_iff.mp hread
      exact .plus hdigits (Int.ofNat_le.mpr hle)
    · obtain ⟨n, hread, rfl⟩ := exists_of_map_eq_ok h
      obtain ⟨hdigits, rfl, hle⟩ := magnitude_eq_ok_iff.mp hread
      exact .minus (by show -(below : Int) < 0; omega) hdigits
        (by show -(below : Int) ≤ -(worth _ : Int); omega)
    · obtain ⟨n, hread, rfl⟩ := exists_of_map_eq_ok h
      obtain ⟨hdigits, rfl, hle⟩ := magnitude_eq_ok_iff.mp hread
      exact .plain hdigits (Int.ofNat_le.mpr hle)
  · intro h
    cases h with
    | plain hdigits hle =>
      obtain ⟨c, rest, rfl, hplus, hminus⟩ := hdigits.exists_cons
      rw [readInt_of_ne_sign hplus hminus,
        magnitude_eq_ok_iff.mpr ⟨hdigits, rfl, Int.ofNat_le.mp hle⟩]
      rfl
    | plus hdigits hle =>
      rw [readInt, magnitude_eq_ok_iff.mpr ⟨hdigits, rfl, Int.ofNat_le.mp hle⟩]
      rfl
    | minus hsign hdigits hle =>
      have hle' : worth _ ≤ below := Int.ofNat_le.mp (Int.neg_le_neg_iff.mp hle)
      rw [readInt, magnitude_eq_ok_iff.mpr ⟨hdigits, rfl, hle'⟩]
      rfl

/-- **All other texts are refused** for their first problem. -/
theorem readInt_eq_error_iff (hbelow : 0 < below) :
    readInt below above cs = .error why ↔ Refuses ⟨-below, above⟩ cs why := by
  have hlimit : (- -(below : Int)).toNat = below := by omega
  constructor
  · intro h
    unfold readInt at h
    split at h
    · cases h
      exact .empty
    · exact .plus (magnitude_eq_error_iff.mp (map_eq_error_iff.mp h))
    · have hstumbles := magnitude_eq_error_iff.mp (map_eq_error_iff.mp h)
      exact .minus (by show -(below : Int) < 0; omega) (hlimit.symm ▸ hstumbles)
    · next hnil hplus hminus =>
      cases cs with
      | nil => exact absurd rfl hnil
      | cons c rest =>
        refine .plain ?_ (fun _ => ?_) (magnitude_eq_error_iff.mp (map_eq_error_iff.mp h))
        · rintro rfl
          exact hplus rest rfl
        · rintro rfl
          exact hminus rest rfl
  · intro h
    cases h with
    | empty => rfl
    | plain hplus hminus hstumbles =>
      have hsign : -(below : Int) < 0 := by omega
      rw [readInt_of_ne_sign hplus (hminus hsign), map_eq_error_iff]
      exact magnitude_eq_error_iff.mpr hstumbles
    | plus hstumbles =>
      rw [readInt, map_eq_error_iff]
      exact magnitude_eq_error_iff.mpr hstumbles
    | minus hsign hstumbles =>
      rw [readInt, map_eq_error_iff]
      exact magnitude_eq_error_iff.mpr (hlimit ▸ hstumbles)

/-- There are no blanks in a numeral. -/
theorem not_spells_of_isBlank {range : Range} {m : Int} {c : Char} (hc : c ∈ cs)
    (hblank : Text.isBlank c = true) : ¬ Spells range cs m := by
  have hdigit : ∀ digits, AreDigits digits → c ∉ digits := by
    intro digits hdigits hmem
    rw [isBlank_of_isDigit (hdigits.2 c hmem)] at hblank
    cases hblank
  intro h
  cases h with
  | plain hdigits => exact hdigit _ hdigits hc
  | plus hdigits =>
    rcases List.mem_cons.mp hc with rfl | hmem
    · cases hblank
    · exact hdigit _ hdigits hmem
  | minus _ hdigits =>
    rcases List.mem_cons.mp hc with rfl | hmem
    · cases hblank
    · exact hdigit _ hdigits hmem

/-- The lengths: the unsigned integers of 64 bits. -/
def lengthRange : Range := ⟨0, 18446744073709551615⟩

/-- The first values: the signed integers of 64 bits. -/
def startRange : Range := ⟨-9223372036854775808, 9223372036854775807⟩

end Numeral

open Numeral

/-! ## The two settings that are numerals -/

section Readers

variable {cs : List Char} {why : Refusal}

theorem readCount_eq_ok_iff {n : UInt64} :
    readCount cs = .ok n ↔ Spells lengthRange cs n.toNat := by
  rw [show lengthRange = ⟨0, ((UInt64.size - 1 : Nat) : Int)⟩ from rfl, ← readNat_eq_ok_iff]
  unfold readCount
  constructor
  · intro h
    obtain ⟨m, hread, rfl⟩ := exists_of_map_eq_ok h
    have hlt : m < UInt64.size := Nat.lt_of_le_of_lt (readNat_le hread) (by decide)
    rw [UInt64.toNat_ofNat_of_lt' hlt, hread]
  · intro h
    rw [h]
    exact congrArg Except.ok n.ofNat_toNat

theorem readCount_eq_error_iff : readCount cs = .error why ↔ Refuses lengthRange cs why := by
  rw [show lengthRange = ⟨0, ((UInt64.size - 1 : Nat) : Int)⟩ from rfl, ← readNat_eq_error_iff]
  exact map_eq_error_iff

theorem startRange_eq : startRange =
    ⟨-(Int64.minValue.toInt.natAbs : Int), (Int64.maxValue.toInt.natAbs : Int)⟩ := by
  rfl

/-- The integers that numerals for a first value spell are in its range. -/
theorem mem_of_spells {range : Range} {m : Int} (hleast : range.least ≤ 0)
    (hgreatest : 0 ≤ range.greatest) (h : Spells range cs m) :
    range.least ≤ m ∧ m ≤ range.greatest := by
  cases h with
  | plain _ hle => exact ⟨by omega, hle⟩
  | plus _ hle => exact ⟨by omega, hle⟩
  | minus _ _ hle => exact ⟨hle, by omega⟩

theorem readStart_eq_ok_iff {n : Int64} :
    readStart cs = .ok n ↔ Spells startRange cs n.toInt := by
  have hread : ∀ m, readInt Int64.minValue.toInt.natAbs Int64.maxValue.toInt.natAbs cs = .ok m ↔
      Spells startRange cs m := by
    intro m
    rw [startRange_eq]
    exact readInt_eq_ok_iff (by decide)
  rw [← hread]
  unfold readStart
  constructor
  · intro h
    obtain ⟨m, hm, rfl⟩ := exists_of_map_eq_ok h
    obtain ⟨hlow, hhigh⟩ := mem_of_spells (by decide) (by decide) ((hread m).mp hm)
    rw [Int64.toInt_ofInt_of_le hlow (Int.lt_add_one_of_le hhigh), hm]
  · intro h
    rw [h]
    exact congrArg Except.ok n.ofInt_toInt

theorem readStart_eq_error_iff : readStart cs = .error why ↔ Refuses startRange cs why := by
  rw [startRange_eq, ← readInt_eq_error_iff (by decide)]
  exact map_eq_error_iff

end Readers

/-- One text for one setting, and none for the others. -/
def Lookup.only (setting : Setting) (text : String) : Lookup := fun other =>
  if other = setting then some text else none

namespace Config

variable {source : Source} {setting : Setting} {texts : Lookup} {config result : Config}
  {text : String}

/-- **A pass with a single text** makes the change that it says, or reports it. -/
theorem override_only (source : Source) (setting : Setting) (text : String) (config : Config) :
    override source (Lookup.only setting text) config =
      match source.read setting text with
      | .ok change => (change config, .ok ())
      | .error e => (config, .error e) := by
  -- the settings before it and behind it are not given
  cases hread : source.read setting text <;> cases setting <;>
    simp only [override, Setting.all, overrideAll, Lookup.only, reduceCtorEq, if_false, if_true,
      hread]

/-- **How a text is read for a setting that is a numeral**: by its characters `cs`, as one of the
    integers of `range`; `store` sets the setting, and `toInt` is what it is set to. -/
structure ReadsNumeral {α : Type} (source : Source) (setting : Setting) (range : Range)
    (toInt : α → Int) (store : α → Config → Config) (text : String) (cs : List Char) : Prop where
  /-- The setting is set exactly to what the characters spell. -/
  sets : ∀ config a,
    override source (Lookup.only setting text) config = (store a config, .ok ()) ↔
      Spells range cs (toInt a)
  /-- Nothing is set by characters that have a problem, and the error is the first one. -/
  refuses : ∀ config why,
    override source (Lookup.only setting text) config =
        (config, .error (source.numeralError setting why)) ↔
      Refuses range cs why
  /-- There is no third way. -/
  total : (∃ a, Spells range cs (toInt a)) ∨ ∃ why, Refuses range cs why
  /-- Among other texts too the setting is set to what the characters spell, if no text is bad. -/
  within : ∀ texts config result, texts setting = some text →
    override source texts config = (result, .ok ()) →
      ∃ a, Spells range cs (toInt a) ∧ store a result = result

/-- How a text is read as a length. -/
def ReadsLength (source : Source) (text : String) (cs : List Char) : Prop :=
  ReadsNumeral source .length lengthRange (fun n : UInt64 => (n.toNat : Int))
    (fun n config => { config with sequence.length := n }) text cs

/-- How a text is read as a first value. -/
def ReadsStart (source : Source) (text : String) (cs : List Char) : Prop :=
  ReadsNumeral source .start startRange Int64.toInt
    (fun n config => { config with sequence.start := n }) text cs

section ReadsNumeral

variable {α : Type} {range : Range} {toInt : α → Int} {store : α → Config → Config}

/-- A setting is read as a numeral if its reader follows the grammar, and if a pass that succeeds
    has read it. -/
theorem readsNumeral_of_parse (parse : List Char → Except Refusal α)
    (hread : source.read setting text =
      match parse (source.numeralChars text) with
      | .ok a => .ok (store a)
      | .error why => .error (source.numeralError setting why))
    (hok : ∀ cs a, parse cs = .ok a ↔ Spells range cs (toInt a))
    (herror : ∀ cs why, parse cs = .error why ↔ Refuses range cs why)
    (hinj : ∀ config a b, store a config = store b config → a = b)
    (hwithin : ∀ texts config result, texts setting = some text →
      override source texts config = (result, .ok ()) →
        ∃ a, parse (source.numeralChars text) = .ok a ∧ store a result = result) :
    ReadsNumeral source setting range toInt store text (source.numeralChars text) where
  sets config a := by
    rw [override_only, hread, ← hok]
    cases parse (source.numeralChars text) with
    | ok b =>
      constructor
      · intro h
        exact congrArg Except.ok (hinj config b a (congrArg Prod.fst h))
      · rintro ⟨⟩
        rfl
    | error why => simp
  refuses config why := by
    rw [override_only, hread, ← herror]
    cases parse (source.numeralChars text) with
    | ok b => simp
    | error other => cases source <;> simp [Source.numeralError]
  total := by
    cases hparse : parse (source.numeralChars text) with
    | ok a => exact Or.inl ⟨a, (hok _ a).mp hparse⟩
    | error why => exact Or.inr ⟨why, (herror _ why).mp hparse⟩
  within texts config result htext hpass := by
    obtain ⟨a, hparse, hstore⟩ := hwithin texts config result htext hpass
    exact ⟨a, (hok _ a).mp hparse, hstore⟩

end ReadsNumeral

/-- A text that is given has been read as the value that it has. -/
theorem read_eq_ok_getD {α ε : Type} {read : String → Except ε α} {value : Option α}
    (h : (some text).map read = value.map .ok) (other : α) :
    read text = .ok (value.getD other) := by
  cases value with
  | none => cases h
  | some a => exact Option.some.inj h

/-- What a pass that succeeds has read as the length, and as the first value. -/
theorem readCount_readStart_of_override (h : override source texts config = (result, .ok ())) :
    (texts .length = some text →
      readCount (source.numeralChars text) = .ok result.sequence.length) ∧
    (texts .start = some text →
      readStart (source.numeralChars text) = .ok result.sequence.start) := by
  obtain ⟨values, hvalues, rfl⟩ :=
    overridden_eq_ok_iff.mp (overridden_eq_ok_iff_overrideAll.mpr h)
  constructor
  · intro htext
    have hlength := hvalues.length
    rw [htext] at hlength
    exact read_eq_ok_getD hlength config.sequence.length
  · intro htext
    have hstart := hvalues.start
    rw [htext] at hstart
    exact read_eq_ok_getD hstart config.sequence.start

theorem readsLength (source : Source) (text : String) :
    ReadsLength source text (source.numeralChars text) := by
  refine readsNumeral_of_parse readCount ?_ (fun cs n => readCount_eq_ok_iff)
    (fun cs why => readCount_eq_error_iff) ?_ ?_
  · unfold Source.read
    cases readCount (source.numeralChars text) <;> rfl
  · intro config n m h
    exact congrArg (fun c => c.sequence.length) h
  · intro texts config result htext hpass
    exact ⟨_, (readCount_readStart_of_override hpass).1 htext, rfl⟩

theorem readsStart (source : Source) (text : String) :
    ReadsStart source text (source.numeralChars text) := by
  refine readsNumeral_of_parse readStart ?_ (fun cs n => readStart_eq_ok_iff)
    (fun cs why => readStart_eq_error_iff) ?_ ?_
  · unfold Source.read
    cases readStart (source.numeralChars text) <;> rfl
  · intro config n m h
    exact congrArg (fun c => c.sequence.start) h
  · intro texts config result htext hpass
    exact ⟨_, (readCount_readStart_of_override hpass).2 htext, rfl⟩

/-- **A text with a blank in it is refused** if it is read as it is. -/
theorem ReadsNumeral.exists_refusal {α : Type} {range : Range} {toInt : α → Int}
    {store : α → Config → Config} {cs : List Char}
    (h : ReadsNumeral source setting range toInt store text cs) {c : Char} (hc : c ∈ cs)
    (hblank : Text.isBlank c = true) :
    ∃ why, ∀ config, override source (Lookup.only setting text) config =
      (config, .error (source.numeralError setting why)) := by
  rcases h.total with ⟨a, hspells⟩ | ⟨why, hrefuses⟩
  · exact absurd hspells (not_spells_of_isBlank hc hblank)
  · refine ⟨why, fun config => ?_⟩
    exact (h.refuses config why).mpr hrefuses

/-! ## Main result -/

/-- **Which numerals a length and a first value can be given by.** A variable is read without the
    blanks around its text, and an option as it is, so that a blank anywhere in it is an error. What
    is read has to follow the grammar, with a value in the range of the setting, which is then set
    to this value; and else the error is the first problem from the left. -/
theorem override_numeral (text : String) :
    ReadsLength .environment text (Text.trimChars text.toList) ∧
    ReadsStart .environment text (Text.trimChars text.toList) ∧
    ReadsLength .commandLine text text.toList ∧
    ReadsStart .commandLine text text.toList ∧
    ∀ c ∈ text.toList, Text.isBlank c = true →
      (∃ why, ∀ config, override .commandLine (Lookup.only .length text) config =
        (config, .error (.invalidInput (.numeral "length" why)))) ∧
      ∃ why, ∀ config, override .commandLine (Lookup.only .start text) config =
        (config, .error (.invalidInput (.numeral "start" why))) := by
  have hlength := readsLength .commandLine text
  have hstart := readsStart .commandLine text
  refine ⟨readsLength .environment text, readsStart .environment text, hlength, hstart, ?_⟩
  intro c hc hblank
  exact ⟨hlength.exists_refusal hc hblank, hstart.exists_refusal hc hblank⟩

/-- Zeros in front do not matter, and neither do blanks around a variable; a digit that exceeds the
    limit hides what stands behind it; the least first value is not the greatest one negated; and an
    option may not have a blank in front. -/
theorem override_numeral_edges :
    override .environment (Lookup.only .length " +007\u3000") {} =
        ({ sequence.length := 7 }, .ok ()) ∧
      override .environment (Lookup.only .length "99999999999999999999x") {} =
        ({}, .error (.config (.numeral "SF_LENGTH" .tooLarge))) ∧
      override .environment (Lookup.only .start "-9223372036854775808") {} =
        ({ sequence.start := Int64.minValue }, .ok ()) ∧
      override .commandLine (Lookup.only .start "-9223372036854775809") {} =
        ({}, .error (.invalidInput (.numeral "start" .tooSmall))) ∧
      ∃ why, override .commandLine (Lookup.only .length " 7") {} =
        ({}, .error (.invalidInput (.numeral "length" why))) := by
  obtain ⟨hseven, -⟩ := override_numeral " +007\u3000"
  obtain ⟨hlarge, -⟩ := override_numeral "99999999999999999999x"
  obtain ⟨-, hleast, -⟩ := override_numeral "-9223372036854775808"
  obtain ⟨-, -, -, hsmall, -⟩ := override_numeral "-9223372036854775809"
  obtain ⟨-, -, -, -, hblank⟩ := override_numeral " 7"
  refine ⟨(hseven.sets {} 7).mpr ?_, (hlarge.refuses {} .tooLarge).mpr ?_,
    (hleast.sets {} Int64.minValue).mpr ?_, (hsmall.refuses {} .tooSmall).mpr ?_, ?_⟩
  · have hchars : Text.trimChars " +007\u3000".toList = '+' :: "007".toList := by decide
    rw [hchars]
    exact .plus (areDigits_of_all (by decide) rfl) (by decide)
  · have hchars : Text.trimChars "99999999999999999999x".toList =
        "9999999999999999999".toList ++ '9' :: ['x'] := by
      decide
    have hstumbles : Stumbles 18446744073709551615 .tooLarge
        ("9999999999999999999".toList ++ '9' :: ['x']) .tooLarge :=
      .exceeds (List.all_eq_true.mp rfl) (by decide) rfl (by decide)
    rw [hchars]
    exact .plain (by decide) (by decide) hstumbles
  · have hchars : Text.trimChars "-9223372036854775808".toList =
        '-' :: "9223372036854775808".toList := by
      decide
    rw [hchars]
    exact .minus (by decide) (areDigits_of_all (by decide) rfl) (by decide)
  · have hchars : "-9223372036854775809".toList =
        '-' :: ("922337203685477580".toList ++ '9' :: []) := by
      decide
    rw [hchars]
    exact .minus (by decide) (.exceeds (List.all_eq_true.mp rfl) (by decide) rfl (by decide))
  · obtain ⟨⟨why, hrefused⟩, -⟩ := hblank ' ' (by decide) (by decide)
    exact ⟨why, hrefused {}⟩

end Config

end Ramp
