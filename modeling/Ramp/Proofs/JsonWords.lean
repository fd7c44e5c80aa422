import Mathlib.Data.List.Basic
import Ramp.Json.Print
import Ramp.Json.Token
import Ramp.Proofs.Numerals

/-!
# `Proofs.JsonWords` — the words of a written JSON text

Each word can be taken off the front of a text, whatever stands behind it. There is one exception:
the end of a number is not marked, so what stands behind a number must not go on with it
(`EndsNumber`). A text is read word by word with as much fuel as it has characters; `Lexes` says the
same without the fuel, since every word takes at least one character.

## Contents
- `escape_cases`, `lexText_escape`, `lexText_escapes`: a text in quotes is read back, whatever
  characters it has.
- `EndsNumber`, with `lexNumeral_repr` and `value_ofInt`: so is an integer that fits 64 bits.
- `Token.chars`, `Token.IsMark` and `Token.IsPlain`, with `firstToken_chars`: so is every plain
  word.
- `Lexes`, with `tokens_of_lexes`: the words of a whole text.
-/

namespace Ramp.Json

/-! ## Texts in quotes -/

/-- The control characters that are written by a letter. -/
def lettered : List Nat := [0x08, 0x09, 0x0A, 0x0C, 0x0D]

theorem escape_lettered {n : Nat} (h : n ∈ lettered) :
    ∃ letter, letter ≠ 'u' ∧ (escape (Char.ofNat n)).toList = ['\\', letter] ∧
      simpleEscape? letter = some (Char.ofNat n) := by
  simp only [lettered, List.mem_cons, List.not_mem_nil, or_false] at h
  rcases h with rfl | rfl | rfl | rfl | rfl
  · exact ⟨'b', by decide, rfl, rfl⟩
  · exact ⟨'t', by decide, rfl, rfl⟩
  · exact ⟨'n', by decide, rfl, rfl⟩
  · exact ⟨'f', by decide, rfl, rfl⟩
  · exact ⟨'r', by decide, rfl, rfl⟩

/-- Every other control character is written by its number. -/
theorem escape_numbered : ∀ n < 0x20, n ∉ lettered →
    (escape (Char.ofNat n)).toList =
        ['\\', 'u', '0', '0', Nat.digitChar (n / 16), Nat.digitChar (n % 16)] ∧
      codeUnit? '0' '0' (Nat.digitChar (n / 16)) (Nat.digitChar (n % 16)) = some n := by
  decide +kernel

/-- **The three ways of writing a character**: by a letter, by its number, or as itself. -/
theorem escape_cases (c : Char) :
    (∃ letter, letter ≠ 'u' ∧ (escape c).toList = ['\\', letter] ∧
        simpleEscape? letter = some c) ∨
      (∃ a b, (escape c).toList = ['\\', 'u', '0', '0', a, b] ∧
        codeUnit? '0' '0' a b = some c.toNat ∧ c.toNat < 0x20) ∨
      ((escape c).toList = [c] ∧ ¬ c.toNat < 0x20 ∧ c ≠ '"' ∧ c ≠ '\\') := by
  by_cases hcontrol : c.toNat < 0x20
  · have hc := Char.ofNat_toNat c
    by_cases hletter : c.toNat ∈ lettered
    · have hescape := escape_lettered hletter
      rw [hc] at hescape
      exact Or.inl hescape
    · have hescape := escape_numbered c.toNat hcontrol hletter
      rw [hc] at hescape
      exact Or.inr (Or.inl ⟨_, _, hescape.1, hescape.2, hcontrol⟩)
  · by_cases hquote : c = '"'
    · subst hquote
      exact Or.inl ⟨'"', by decide, rfl, rfl⟩
    · by_cases hslash : c = '\\'
      · subst hslash
        exact Or.inl ⟨'\\', by decide, rfl, rfl⟩
      · refine Or.inr (Or.inr ⟨?_, hcontrol, hquote, hslash⟩)
        have hne : ∀ d : Char, d.toNat < 0x20 → c ≠ d := by
          rintro d hd rfl
          exact hcontrol hd
        rw [escape, if_neg hquote, if_neg hslash, if_neg (hne '\n' (by decide)),
          if_neg (hne '\r' (by decide)), if_neg (hne '\t' (by decide)), if_neg (by omega),
          if_neg (by omega), if_neg (by omega), if_neg hcontrol, String.toList_singleton]

variable {c : Char} {read : List Char}

/-- A character that is written by a letter is read. -/
theorem lexText_letter {letter : Char} (hne : letter ≠ 'u') (h : simpleEscape? letter = some c)
    (rest : List Char) :
    lexText (some read) none ('\\' :: letter :: rest) = lexText (some (c :: read)) none rest := by
  rw [lexText]
  · simp [h, append]
  · intro a b c d rest hcontra
    exact absurd hcontra hne

/-- A character that is written by its number is read. -/
theorem lexText_number {a b : Char} (h : codeUnit? '0' '0' a b = some c.toNat)
    (hcontrol : c.toNat < 0x20) (rest : List Char) :
    lexText (some read) none ('\\' :: 'u' :: '0' :: '0' :: a :: b :: rest) =
      lexText (some (c :: read)) none rest := by
  have hhigh : isHighHalf c.toNat = false := by
    simp only [isHighHalf, Bool.and_eq_false_iff, decide_eq_false_iff_not]
    omega
  have hlow : isLowHalf c.toNat = false := by
    simp only [isLowHalf, Bool.and_eq_false_iff, decide_eq_false_iff_not]
    omega
  rw [lexText.eq_def]
  simp [h, hhigh, hlow, append, Char.ofNat_toNat]

/-- A character that is written as itself is read. -/
theorem lexText_self (hcontrol : ¬ c.toNat < 0x20) (hquote : c ≠ '"') (hslash : c ≠ '\\')
    (rest : List Char) :
    lexText (some read) none (c :: rest) = lexText (some (c :: read)) none rest := by
  rw [lexText]
  · simp [hcontrol, hslash, append]
  · exact fun h => hquote h
  · intro a b c d rest h
    exact absurd h hslash
  · intro c rest h
    exact absurd h hslash

/-- **A written character is read as itself.** -/
theorem lexText_escape (c : Char) (read rest : List Char) :
    lexText (some read) none ((escape c).toList ++ rest) =
      lexText (some (c :: read)) none rest := by
  rcases escape_cases c with ⟨letter, hne, hwritten, hletter⟩ |
    ⟨a, b, hwritten, hnumber, hcontrol⟩ | ⟨hwritten, hcontrol, hquote, hslash⟩
  · rw [hwritten]
    exact lexText_letter hne hletter rest
  · rw [hwritten]
    exact lexText_number hnumber hcontrol rest
  · rw [hwritten]
    exact lexText_self hcontrol hquote hslash rest

/-- Characters that are written one behind the other are read, up to the quote that ends them. -/
theorem lexText_escapes (cs read rest : List Char) :
    lexText (some read) none ((String.join (cs.map escape)).toList ++ '"' :: rest) =
      some (some (String.ofList (read.reverse ++ cs)), rest) := by
  induction cs generalizing read with
  | nil => simp [lexText]
  | cons c cs ih =>
    have hjoin : (String.join ((c :: cs).map escape)).toList =
        (escape c).toList ++ (String.join (cs.map escape)).toList := by
      simp [String.toList_join]
    rw [hjoin, List.append_assoc, lexText_escape, ih]
    simp

/-! ## Numbers -/

/-- **A text ends a number that stands in front of it**: it does not go on with it. -/
def EndsNumber (cs : List Char) : Prop :=
  ∀ c ∈ cs.head?, c.isDigit = false ∧ c ≠ '.' ∧ c ≠ 'e' ∧ c ≠ 'E'

theorem endsNumber_nil : EndsNumber [] := by
  intro c hc
  cases hc

variable {rest : List Char}

/-- All digits are taken, and nothing else. -/
theorem lexDigits_append {digits : List Char} (hne : digits ≠ [])
    (hdigits : ∀ c ∈ digits, c.isDigit = true) (hends : EndsNumber rest) :
    lexDigits (digits ++ rest) = some (digits, rest) := by
  have hrest : rest.takeWhile Char.isDigit = [] ∧ rest.dropWhile Char.isDigit = rest := by
    cases rest with
    | nil => exact ⟨rfl, rfl⟩
    | cons c cs =>
      have hc : ¬ c.isDigit = true := by simp [(hends c rfl).1]
      exact ⟨List.takeWhile_cons_of_neg hc, List.dropWhile_cons_of_neg hc⟩
  have htake : (digits ++ rest).takeWhile Char.isDigit = digits := by
    rw [List.takeWhile_append_of_pos hdigits, hrest.1, List.append_nil]
  have hdrop : (digits ++ rest).dropWhile Char.isDigit = rest := by
    rw [List.dropWhile_append_of_pos hdigits, hrest.2]
  unfold lexDigits
  rw [htake, hdrop]
  cases digits with
  | nil => exact absurd rfl hne
  | cons c cs => rfl

/-- A number that is not zero is not written with a zero in front. -/
theorem head_toDigits_ne {n : Nat} (hpos : 0 < n) : (Nat.toDigits 10 n).head? ≠ some '0' := by
  induction n using Nat.strongRecOn with
  | ind n ih =>
    by_cases hlt : n < 10
    · rw [Nat.toDigits_of_lt_base hlt]
      simp only [List.head?_cons, ne_eq, Option.some.injEq, Nat.digitChar_eq_zero]
      omega
    · -- the first digit is that of the tenth part
      rw [Nat.toDigits_of_base_le (by decide) (by omega), List.head?_append_of_ne_nil _
        Nat.toDigits_ne_nil]
      exact ih (n / 10) (by omega) (by omega)

/-- The digits of a natural number are a whole number. -/
theorem lexWhole_repr (n : Nat) (hends : EndsNumber rest) :
    lexWhole (n.repr.toList ++ rest) = some (n.repr.toList, rest) := by
  by_cases hzero : n = 0
  · -- a zero is a word of its own, which no digit may follow
    subst hzero
    have hhead : rest.head?.any Char.isDigit = false := by
      cases rest with
      | nil => rfl
      | cons c cs => exact (hends c rfl).1
    show lexWhole ('0' :: rest) = some (['0'], rest)
    simp [lexWhole, hhead]
  · have hdigits := lexDigits_append (by simp [Nat.toDigits_ne_nil])
      (fun c hc => Numeral.isDigit_of_mem_repr (n := n) hc) hends
    have hhead := head_toDigits_ne (Nat.pos_of_ne_zero hzero)
    rw [← Nat.toList_repr] at hhead
    cases hrepr : n.repr.toList with
    | nil => simp [Nat.toDigits_ne_nil] at hrepr
    | cons c cs =>
      rw [hrepr] at hdigits hhead
      have hc : c ≠ '0' := fun h => hhead (congrArg some h)
      rw [List.cons_append, lexWhole]
      · exact hdigits
      · exact fun _ h => hc (List.cons.inj h).1

theorem lexFraction_of_ends (hends : EndsNumber rest) : lexFraction rest = some (none, rest) := by
  cases rest with
  | nil => rfl
  | cons c cs =>
    obtain ⟨-, hpoint, -⟩ := hends c rfl
    rw [lexFraction]
    exact fun _ h => hpoint (List.cons.inj h).1

theorem lexPower_of_ends (hends : EndsNumber rest) : lexPower rest = some (none, rest) := by
  cases rest with
  | nil => rfl
  | cons c cs =>
    obtain ⟨-, -, hlower, hupper⟩ := hends c rfl
    rw [lexPower.eq_def]
    exact if_neg (not_or.mpr ⟨hlower, hupper⟩)

/-- The parts of a written integer. -/
def Numeral.ofInt : Int → Numeral
  | .ofNat m => ⟨false, m.repr.toList, none, none⟩
  | .negSucc m => ⟨true, (m + 1).repr.toList, none, none⟩

/-- **A written integer is taken off a text** that does not go on with it. -/
theorem lexNumeral_repr (n : Int) (hends : EndsNumber rest) :
    lexNumeral (n.repr.toList ++ rest) = some (Numeral.ofInt n, rest) := by
  have hwhole := fun m => lexWhole_repr m hends
  have hfraction := lexFraction_of_ends hends
  have hpower := lexPower_of_ends hends
  cases n with
  | ofNat m =>
    obtain ⟨c, cs, hrepr, -, hminus⟩ := Numeral.exists_repr_eq_cons m
    have hwhole := hwhole m
    rw [hrepr] at hwhole
    rw [Int.repr, hrepr]
    unfold lexNumeral
    split
    next hsign =>
      split at hsign
      · next h => exact absurd (List.cons.inj h).1 hminus
      · cases hsign
        simp only [hwhole, hfraction, hpower, Option.bind_eq_bind, Option.bind_some,
          Option.pure_def, Numeral.ofInt]
        rw [← hrepr]
  | negSucc m =>
    have hrepr : (Int.negSucc m).repr.toList = '-' :: (m + 1).repr.toList := by
      simp [Int.repr]
    simp only [hrepr, List.cons_append, lexNumeral, hwhole, hfraction, hpower, Option.bind_eq_bind,
      Option.bind_some, Option.pure_def]
    rfl

/-- **Its parts are worth the integer**, if it fits 64 bits. -/
theorem value_ofInt {n : Int} (hlow : Int64.minValue.toInt ≤ n) (hhigh : n < UInt64.size) :
    (Numeral.ofInt n).value = .integer n := by
  have hmin : Int64.minValue.toInt = -9223372036854775808 := rfl
  have hsize : UInt64.size = 18446744073709551616 := rfl
  have hgreatest : greatestSignificand = 18446744073709551615 := rfl
  have hdigits : ∀ m : Nat, Nat.ofDigitChars 10 m.repr.toList 0 = m := fun m => by simp
  rw [hmin] at hlow
  rw [hsize] at hhigh
  cases n with
  | ofNat m =>
    have hfits : m ≤ greatestSignificand := by
      rw [Int.ofNat_eq_natCast] at hhigh
      omega
    simp only [Numeral.value, Numeral.ofInt, hdigits]
    rw [if_pos ⟨rfl, rfl, hfits, fun h => by cases h⟩]
    rfl
  | negSucc m =>
    have hfits : m + 1 ≤ greatestSignificand := by omega
    have hleast : m + 1 ≤ Int64.minValue.toInt.natAbs := by
      rw [hmin]
      omega
    simp only [Numeral.value, Numeral.ofInt, hdigits]
    rw [if_pos ⟨rfl, rfl, hfits, fun _ => ⟨by omega, hleast⟩⟩]
    rfl

/-! ## One word -/

/-- How a word is written. -/
def Token.chars : Token → List Char
  | .openArray => ['[']
  | .closeArray => [']']
  | .openTable => ['{']
  | .closeTable => ['}']
  | .comma => [',']
  | .colon => [':']
  | .scalar value => (write value).toList
  | .broken => []

/-- **A mark**, which is a word of one character. -/
inductive Token.IsMark : Token → Prop where
  | openArray : IsMark .openArray
  | closeArray : IsMark .closeArray
  | openTable : IsMark .openTable
  | closeTable : IsMark .closeTable
  | comma : IsMark .comma
  | colon : IsMark .colon

/-- **A word that stays the same** when it is written and read: a mark, or a value that JSON has,
    where a number is an integer that fits 64 bits. -/
inductive Token.IsPlain : Token → Prop where
  | mark {token : Token} (h : token.IsMark) : IsPlain token
  | null : IsPlain (.scalar .null)
  | boolean (value : Bool) : IsPlain (.scalar (.boolean value))
  | integer {value : Int} (hlow : Int64.minValue.toInt ≤ value) (hhigh : value < UInt64.size) :
    IsPlain (.scalar (.integer value))
  | string (text : String) : IsPlain (.scalar (.string (some text)))

/-- A mark ends a number. -/
theorem endsNumber_mark {token : Token} (h : token.IsMark) (cs : List Char) :
    EndsNumber (token.chars ++ cs) := by
  cases h <;>
    · intro c hc
      cases hc
      decide

/-- A mark is no value. -/
theorem ne_scalar_of_isMark {token : Token} (h : token.IsMark) (value : Document) :
    token ≠ .scalar value := by
  rintro rfl
  cases h

/-- A number is taken off a text that starts with a sign or a digit. -/
theorem firstToken_of_lexNumeral {c : Char} {cs : List Char} {numeral : Numeral}
    (hc : c.isDigit = true ∨ c = '-') (h : lexNumeral (c :: cs) = some (numeral, rest)) :
    firstToken (c :: cs) = (.scalar numeral.value, rest) := by
  have hne : ∀ d : Char, d.isDigit = false → d ≠ '-' → c ≠ d := by
    rintro d hdigit hsign rfl
    rcases hc with hc | hc
    · rw [hdigit] at hc
      cases hc
    · exact hsign hc
  rw [firstToken.eq_def]
  split
  case h_1 hfirst => cases hfirst
  case h_12 => rw [h]
  -- no other word starts with a sign or a digit
  all_goals
    next hfirst => exact absurd (List.cons.inj hfirst).1 (hne _ (by decide) (by decide))

theorem chars_integer (value : Int) :
    (Token.scalar (.integer value)).chars = value.repr.toList := by
  simp [Token.chars, write, writeOnto]

theorem chars_string (text : String) :
    (Token.scalar (.string (some text))).chars =
      '"' :: ((String.join (text.toList.map escape)).toList ++ ['"']) := by
  simp [Token.chars, write, writeOnto, quote]

/-- An integer is written with a sign or a digit in front. -/
theorem head_repr {value : Int} {c : Char} {cs : List Char} (h : value.repr.toList = c :: cs) :
    c.isDigit = true ∨ c = '-' :=
  Numeral.isDigit_or_eq_of_mem_repr (n := value) (by simp [h])

/-- **A plain word is taken off a text**, whatever follows it; only behind a value the text must not
    go on with a number. -/
theorem firstToken_chars {token : Token} (hplain : token.IsPlain)
    (hends : ∀ value, token = .scalar value → EndsNumber rest) :
    firstToken (token.chars ++ rest) = (token, rest) := by
  cases hplain with
  | mark hmark => cases hmark <;> rfl
  | null => rfl
  | boolean value => cases value <;> rfl
  | @integer value hlow hhigh =>
    have hnumeral := lexNumeral_repr value (hends _ rfl)
    rw [chars_integer]
    cases hrepr : value.repr.toList with
    | nil => exact absurd hrepr (Numeral.repr_ne_nil value)
    | cons c cs =>
      rw [hrepr] at hnumeral
      have hfirst := firstToken_of_lexNumeral (head_repr hrepr) hnumeral
      rw [value_ofInt hlow hhigh] at hfirst
      exact hfirst
  | string text =>
    -- the quote that closes the text stands in front of the rest
    have hread := lexText_escapes text.toList [] rest
    rw [List.reverse_nil, List.nil_append, String.ofList_toList] at hread
    rw [chars_string, List.cons_append, List.append_assoc]
    simp only [firstToken, List.cons_append, List.nil_append, hread]

/-- A digit is no gap. -/
theorem isGap_of_isDigit {c : Char} (h : c.isDigit = true) : isGap c = false := by
  rw [Bool.eq_false_iff]
  intro hgap
  simp only [isGap, Bool.or_eq_true, beq_iff_eq] at hgap
  rcases hgap with ((rfl | rfl) | rfl) | rfl <;> exact absurd h (by decide)

/-- A plain word is written with something other than a gap in front. -/
theorem exists_chars_eq_cons {token : Token} (hplain : token.IsPlain) :
    ∃ c cs, token.chars = c :: cs ∧ isGap c = false := by
  cases hplain with
  | mark hmark => cases hmark <;> exact ⟨_, _, rfl, rfl⟩
  | null => exact ⟨_, _, rfl, rfl⟩
  | boolean value => cases value <;> exact ⟨_, _, rfl, rfl⟩
  | @integer value hlow hhigh =>
    rw [chars_integer]
    cases hrepr : value.repr.toList with
    | nil => exact absurd hrepr (Numeral.repr_ne_nil value)
    | cons c cs =>
      refine ⟨c, cs, rfl, ?_⟩
      rcases head_repr hrepr with hdigit | rfl
      · exact isGap_of_isDigit hdigit
      · rfl
  | string text =>
    rw [chars_string]
    exact ⟨_, _, rfl, rfl⟩

/-! ## All words -/

/-- **A text consists of words**, with no gaps between them. -/
inductive Lexes : List Char → List Token → Prop where
  | nil : Lexes [] []
  | cons {token : Token} {tokens : List Token} {cs : List Char} (hplain : token.IsPlain)
      (hends : ∀ value, token = .scalar value → EndsNumber cs) (h : Lexes cs tokens) :
    Lexes (token.chars ++ cs) (token :: tokens)

/-- With enough fuel the words of a text are those that it consists of. -/
theorem tokensUpTo_of_lexes {cs : List Char} {words : List Token} (h : Lexes cs words) {fuel : Nat}
    (hfuel : cs.length ≤ fuel) : tokensUpTo fuel cs = words := by
  induction h generalizing fuel with
  | nil => cases fuel <;> rfl
  | @cons token tokens cs hplain hends _ ih =>
    obtain ⟨c, tail, hchars, hgap⟩ := exists_chars_eq_cons hplain
    have hfirst := firstToken_chars hplain hends
    rw [hchars, List.cons_append] at hfirst hfuel ⊢
    cases fuel with
    | zero => cases hfuel
    | succ fuel =>
      -- the word takes a character, so the fuel that is left is enough for the rest
      have hrest : tokensUpTo fuel cs = tokens := by
        apply ih
        rw [List.length_cons, List.length_append] at hfuel
        omega
      rw [tokensUpTo, List.dropWhile_cons_of_neg (by simp [hgap])]
      simp only [hfirst]
      -- a plain word is not a wrong one, which would be the last
      cases hplain with
      | mark hmark => cases hmark <;> exact congrArg (List.cons _) hrest
      | _ => exact congrArg (List.cons _) hrest

/-- **The words of a text** are those that it consists of. -/
theorem tokens_of_lexes {cs : List Char} {words : List Token} (h : Lexes cs words) :
    tokens cs = words :=
  tokensUpTo_of_lexes h (Nat.le_refl _)

end Ramp.Json
