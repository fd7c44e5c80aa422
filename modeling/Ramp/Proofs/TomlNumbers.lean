import Ramp.Proofs.JsonNumbers
import Ramp.Proofs.Readers
import Ramp.Toml.Value

/-!
# `Proofs.TomlNumbers` — integers as TOML spells them

An integer that is spelled as it would be written is a value if it has 64 bits, and no value at all
otherwise (`value_repr`). A value is whatever the first reader takes that takes anything, so each of
the readers before the one for integers has to be shown to fail: most of them fail at the first
character, a date fails at the first character behind the digits, and a number with a point or an
exponent behind that.

## Contents
- `EndsValue`: what may stand behind a value.
- `whole_repr`, `sign_repr` and `decimal_repr`: the parts of an integer, and the integer.
- `text_repr`, `boolean_repr`, `date_repr`, `real_repr`: the readers before the one for integers.
- `value_repr`: the main result.
-/

namespace Ramp

namespace Toml

open Reader

/-- What may stand behind a value: a gap, the end of a line, a comment, or what goes on with or
    closes the container that the value is in. -/
def behindValue : List Char :=
  [' ', '\t', '\n', '\r', '#', ',', ']', '}']

/-- **A text ends a value that stands in front of it.** -/
def EndsValue (rest : List Char) : Prop :=
  ∀ c ∈ rest.head?, c ∈ behindValue

variable {rest : List Char}

theorem endsNumber_of_endsValue (h : EndsValue rest) : Json.EndsNumber rest := by
  intro c hc
  have hmem := h c hc
  simp only [behindValue, List.mem_cons, List.not_mem_nil, or_false] at hmem
  rcases hmem with rfl | rfl | rfl | rfl | rfl | rfl | rfl | rfl <;> decide

theorem head_ne_of_endsValue (h : EndsValue rest) {c : Char}
    (hc : c ∉ behindValue) : rest.head? ≠ some c :=
  fun hhead => hc (h c hhead)

/-! ## Digits -/

/-- A decimal digit is worth the same among the hexadecimal ones. -/
theorem hexDigit?_of_isDigit {c : Char} (h : c.isDigit = true) :
    Text.hexDigit? c = some (c.toNat - 48) := by
  have hrange : '0' ≤ c ∧ c ≤ '9' := by simpa [Char.isDigit, Char.le_def] using h
  rw [Text.hexDigit?, if_pos hrange]
  rfl

/-- The digits of a number are worth the number. -/
theorem digitsValue_repr (n : Nat) : digitsValue 10 n.repr.toList = n := by
  have hfold : ∀ (digits : List Char) (start : Nat), (∀ c ∈ digits, c.isDigit = true) →
      digits.foldl (fun n c => n * 10 + (Text.hexDigit? c).getD 0) start =
        Nat.ofDigitChars 10 digits start := by
    intro digits
    induction digits with
    | nil => intro start _; simp
    | cons c digits ih =>
      intro start hdigits
      rw [List.foldl_cons, ih _ fun d hd => hdigits d (by simp [hd]),
        hexDigit?_of_isDigit (hdigits c (by simp)), Nat.ofDigitChars_cons, Nat.mul_comm]
      rfl
  rw [digitsValue, hfold _ _ fun c hc => Numeral.isDigit_of_mem_repr hc]
  simp

/-- The digits of a number are a whole number. -/
theorem whole_repr (n : Nat) (hends : EndsValue rest) :
    whole (n.repr.toList ++ rest) = some (n.repr.toList, rest) := by
  by_cases hzero : n = 0
  · subst hzero
    change whole ('0' :: rest) = some (['0'], rest)
    apply orElse_of_some
    rw [bind_of_some (mark_of_head rfl)]
    rfl
  · have hhead := Json.head_toDigits_ne (Nat.pos_of_ne_zero hzero)
    rw [← Nat.toList_repr] at hhead
    have hdigits : ∀ c ∈ n.repr.toList, c.isDigit = true := fun c hc =>
      Numeral.isDigit_of_mem_repr hc
    cases hrepr : n.repr.toList with
    | nil => simp [Nat.toDigits_ne_nil] at hrepr
    | cons c digits =>
      rw [hrepr] at hhead hdigits
      have hmark : mark "0" (c :: digits ++ rest) = none := mark_of_head_ne rfl hhead
      have hmany : many (one Char.isDigit <|> (do mark "_"; one Char.isDigit)) (digits ++ rest) =
          some (digits, rest) := by
        refine many_digits (fun d hd more => ?_) ?_
        · exact orElse_of_some (one_of_accept (hdigits d (by simp [hd])))
        · rw [orElse_of_none (one_of_not_accept fun d hd => (endsNumber_of_endsValue hends d hd).1)]
          exact bind_of_none (mark_of_head_ne rfl (head_ne_of_endsValue hends (by decide)))
      rw [whole, orElse_of_none (bind_of_none hmark), group, List.cons_append,
        bind_of_some (one_of_accept (hdigits c (by simp))), bind_of_some hmany]
      rfl

/-! ## Integers -/

/-- What starts with a digit starts with no sign. -/
theorem sign_of_isDigit {cs : List Char} {c : Char} (hc : c.isDigit = true) :
    sign (c :: cs) = some (false, c :: cs) := by
  have hminus : mark "-" (c :: cs) = none := by
    refine mark_of_head_ne rfl fun h => ?_
    cases h
    exact absurd hc (by decide)
  have hplus : mark "+" (c :: cs) = none := by
    refine mark_of_head_ne rfl fun h => ?_
    cases h
    exact absurd hc (by decide)
  rw [sign, orElse_of_none (bind_of_none hminus), orElse_of_none (bind_of_none hplus)]
  rfl

theorem sign_of_minus (cs : List Char) : sign ('-' :: cs) = some (true, cs) := by
  apply orElse_of_some
  rw [bind_of_some (mark_of_head rfl)]
  rfl

/-- The digits of a number start with a digit. -/
theorem exists_repr_eq_cons (n : Nat) :
    ∃ c digits, n.repr.toList = c :: digits ∧ c.isDigit = true := by
  cases hrepr : n.repr.toList with
  | nil => simp [Nat.toDigits_ne_nil] at hrepr
  | cons c digits =>
    exact ⟨c, digits, rfl, Numeral.isDigit_of_mem_repr (n := n) (by simp [hrepr])⟩

/-- **The parts of an integer**: whether there is a minus, and the digits behind it. -/
theorem sign_repr (z : Int) (rest : List Char) :
    ∃ (isNegative : Bool) (n : Nat),
      sign (z.repr.toList ++ rest) = some (isNegative, n.repr.toList ++ rest) ∧
        z = if isNegative then -Int.ofNat n else Int.ofNat n := by
  cases z with
  | ofNat n =>
    obtain ⟨c, digits, hrepr, hc⟩ := exists_repr_eq_cons n
    refine ⟨false, n, ?_, rfl⟩
    rw [Int.repr, hrepr]
    exact sign_of_isDigit hc
  | negSucc n =>
    refine ⟨true, n + 1, ?_, rfl⟩
    rw [Json.repr_negSucc]
    exact sign_of_minus _

theorem decimal_repr (z : Int) (hends : EndsValue rest) :
    decimal (z.repr.toList ++ rest) = bounded z rest := by
  obtain ⟨isNegative, n, hsign, hz⟩ := sign_repr z rest
  rw [decimal, bind_of_some hsign, bind_of_some (whole_repr n hends), digitsValue_repr, ← hz]

/-! ## What an integer does not start with -/

/-- An integer starts with a digit or a minus. -/
theorem head_repr_ne (z : Int) (rest : List Char) {c : Char} (hdigit : c.isDigit = false)
    (hminus : c ≠ '-') : (z.repr.toList ++ rest).head? ≠ some c := by
  rw [List.head?_append_of_ne_nil _ (Numeral.repr_ne_nil z)]
  intro hhead
  have hmem : c ∈ z.repr.toList := List.mem_of_mem_head? hhead
  rcases Numeral.isDigit_or_eq_of_mem_repr hmem with h | h
  · rw [hdigit] at h
    cases h
  · exact hminus h

/-- Behind its first character there are digits, or what stands behind the integer. -/
theorem second_repr_ne (z : Int) (hends : EndsValue rest) {c : Char} (hdigit : c.isDigit = false)
    (hminus : c ≠ '-') (hc : c ∉ behindValue) :
    (z.repr.toList ++ rest).tail.head? ≠ some c := by
  intro hhead
  rcases hrepr : z.repr.toList with _ | ⟨first, _ | ⟨second, others⟩⟩
  · exact Numeral.repr_ne_nil z hrepr
  · rw [hrepr] at hhead
    exact head_ne_of_endsValue hends hc hhead
  · rw [hrepr] at hhead
    have hmem : c ∈ z.repr.toList := by
      cases hhead
      rw [hrepr]
      simp
    rcases Numeral.isDigit_or_eq_of_mem_repr hmem with h | h
    · rw [hdigit] at h
      cases h
    · exact hminus h

/-- Behind the digits that an integer starts with there is what stands behind the integer. -/
theorem eq_of_digits (z : Int) (hends : EndsValue rest) {digits after : List Char}
    (h : z.repr.toList ++ rest = digits ++ after) (hne : digits ≠ [])
    (hdigits : ∀ c ∈ digits, c.isDigit = true) {c : Char} (hafter : after.head? = some c)
    (hc : c.isDigit = false) : rest = after := by
  have hdrop : ∀ {before behind : List Char}, (∀ d ∈ before, d.isDigit = true) →
      (∀ d ∈ behind.head?, d.isDigit = false) →
      (before ++ behind).dropWhile Char.isDigit = behind := by
    intro before behind hbefore hbehind
    rw [List.dropWhile_append_of_pos hbefore]
    cases behind with
    | nil => rfl
    | cons d behind => exact List.dropWhile_cons_of_neg (by simp [hbehind d rfl])
  have hbehind : ∀ d ∈ after.head?, d.isDigit = false := by
    intro d hd
    cases hafter.symm.trans hd
    exact hc
  cases z with
  | ofNat n =>
    have hrest := hdrop (fun d hd => Numeral.isDigit_of_mem_repr (n := n) hd) fun d hd =>
      (endsNumber_of_endsValue hends d hd).1
    have hrepr : (Int.ofNat n).repr = n.repr := rfl
    rw [← hrest, ← hrepr, h, hdrop hdigits hbehind]
  | negSucc n =>
    rw [Json.repr_negSucc] at h
    cases digits with
    | nil => exact absurd rfl hne
    | cons d digits =>
      have hd := hdigits d (by simp)
      cases (List.cons.inj h).1
      exact absurd hd (by decide)

theorem mapM_one_eq_some {accept : Char → Bool} {indices : List Nat} {cs digits after : List Char}
    (h : (indices.mapM fun _ => one accept) cs = some (digits, after)) :
    cs = digits ++ after ∧ digits.length = indices.length ∧
      ∀ c ∈ digits, accept c = true := by
  induction indices generalizing cs digits with
  | nil =>
    cases h
    exact ⟨rfl, rfl, by simp⟩
  | cons index indices ih =>
    rw [List.mapM_cons] at h
    obtain ⟨⟨c, between⟩, hc, h⟩ := Option.bind_eq_some_iff.mp h
    obtain ⟨⟨others, last⟩, hothers, h⟩ := Option.bind_eq_some_iff.mp h
    cases h
    obtain ⟨rfl, hlength, haccept⟩ := ih hothers
    cases cs with
    | nil => cases hc
    | cons d cs =>
      rw [one] at hc
      split at hc
      · next hd =>
        cases hc
        exact ⟨rfl, by simp [hlength], List.forall_mem_cons.mpr ⟨hd, haccept⟩⟩
      · cases hc

/-! ## The readers before the one for integers -/

variable (z : Int)

theorem text_repr (rest : List Char) : text (z.repr.toList ++ rest) = none := by
  have hdouble := head_repr_ne z rest (c := '"') (by decide) (by decide)
  have hsingle := head_repr_ne z rest (c := '\'') (by decide) (by decide)
  have hlong : ∀ {quote : Char} {piece : Reader (List Char)},
      (z.repr.toList ++ rest).head? ≠ some quote →
        longText quote piece (z.repr.toList ++ rest) = none := fun hquote =>
    bind_of_none (mark_of_head_ne String.toList_ofList hquote)
  have hbasic : basic (z.repr.toList ++ rest) = none :=
    bind_of_none (mark_of_head_ne rfl hdouble)
  have hliteral : literal (z.repr.toList ++ rest) = none :=
    bind_of_none (mark_of_head_ne rfl hsingle)
  refine bind_of_none ?_
  rw [orElse_of_none (hlong hdouble), orElse_of_none hbasic, orElse_of_none (hlong hsingle),
    hliteral]

theorem boolean_repr (rest : List Char) : boolean (z.repr.toList ++ rest) = none := by
  have htrue := head_repr_ne z rest (c := 't') (by decide) (by decide)
  have hfalse := head_repr_ne z rest (c := 'f') (by decide) (by decide)
  rw [boolean, orElse_of_none (bind_of_none (mark_of_head_ne rfl htrue))]
  exact bind_of_none (mark_of_head_ne rfl hfalse)

/-- Behind digits that are taken off an integer there is no mark of a date. -/
theorem mark_of_number (hends : EndsValue rest) {digits limit n : Nat} (hpos : 0 < digits)
    {after : List Char} (h : number digits limit (z.repr.toList ++ rest) = some (n, after))
    {wanted : String} {c : Char} (hwanted : wanted.toList = [c]) (hdigit : c.isDigit = false)
    (hc : c ∉ behindValue) : mark wanted after = none := by
  obtain ⟨⟨taken, behind⟩, htaken, h⟩ := Option.bind_eq_some_iff.mp h
  obtain ⟨hchars, hlength, hdigits⟩ := mapM_one_eq_some htaken
  have hbehind : behind = after := by
    change (if Nat.ofDigitChars 10 taken 0 ≤ limit then (pure _ : Reader Nat) else failure)
      behind = _ at h
    by_cases hle : Nat.ofDigitChars 10 taken 0 ≤ limit
    · rw [if_pos hle] at h
      cases h
      rfl
    · rw [if_neg hle] at h
      cases h
  subst hbehind
  have hne : taken ≠ [] := by
    rintro rfl
    rw [List.length_nil, List.length_range] at hlength
    omega
  refine mark_of_head_ne hwanted fun hhead => ?_
  have hrest := eq_of_digits z hends hchars hne hdigits hhead hdigit
  exact head_ne_of_endsValue hends hc (hrest ▸ hhead)

theorem date_repr (hends : EndsValue rest) : date (z.repr.toList ++ rest) = none := by
  have hday : day (z.repr.toList ++ rest) = none := bind_eq_none fun year after hyear =>
    bind_of_none (mark_of_number z hends (by decide) hyear rfl (by decide) (by decide))
  have htime : time (z.repr.toList ++ rest) = none := by
    refine bind_eq_none fun _ after hhours => ?_
    obtain ⟨⟨hours, behind⟩, hhours, h⟩ := Option.bind_eq_some_iff.mp hhours
    cases h
    exact bind_of_none
      (mark_of_number z hends (by decide) hhours rfl (by decide) (by decide))
  have hboth : dayAndTime (z.repr.toList ++ rest) = none := bind_of_none hday
  refine bind_of_none ?_
  rw [orElse_of_none hboth, htime]

theorem real_repr (hends : EndsValue rest) : real (z.repr.toList ++ rest) = none := by
  obtain ⟨isNegative, n, hsign, -⟩ := sign_repr z rest
  obtain ⟨c, digits, hrepr, hc⟩ := exists_repr_eq_cons n
  have hfraction : fraction rest = none :=
    bind_of_none (mark_of_head_ne rfl (head_ne_of_endsValue hends (by decide)))
  have hexponent : exponent rest = none := by
    refine bind_of_none ?_
    rw [orElse_of_none (mark_of_head_ne rfl (head_ne_of_endsValue hends (by decide)))]
    exact mark_of_head_ne rfl (head_ne_of_endsValue hends (by decide))
  have hfinite : finite (z.repr.toList ++ rest) = none := by
    rw [finite, bind_of_some hsign, bind_of_some (whole_repr n hends),
      bind_of_some (optional_of_none hfraction)]
    exact bind_of_none (map_of_none hexponent)
  have hspecial : special (z.repr.toList ++ rest) = none := by
    have hhead : ∀ {d : Char}, d.isDigit = false → (n.repr.toList ++ rest).head? ≠ some d := by
      intro d hd hhead
      rw [hrepr] at hhead
      cases hhead
      rw [hc] at hd
      cases hd
    rw [special, bind_of_some hsign,
      orElse_of_none (bind_of_none (mark_of_head_ne rfl (hhead (by decide))))]
    exact bind_of_none (mark_of_head_ne rfl (hhead (by decide)))
  rw [real, orElse_of_none hfinite, hspecial]

theorem integer_repr (hends : EndsValue rest) :
    integer (z.repr.toList ++ rest) = bounded z rest := by
  have hbased : ∀ {start : String} {base : Nat} {c : Char}, start.toList = ['0', c] →
      c.isDigit = false → c ≠ '-' → c ∉ behindValue →
      based start base (z.repr.toList ++ rest) = none := fun hstart hdigit hminus hc =>
    bind_of_none (mark_of_second_ne hstart (second_repr_ne z hends hdigit hminus hc))
  rw [integer, orElse_of_none (hbased rfl (by decide) (by decide) (by decide)),
    orElse_of_none (hbased rfl (by decide) (by decide) (by decide)),
    orElse_of_none (hbased rfl (by decide) (by decide) (by decide)), decimal_repr z hends]

/-! ## Main result -/

theorem scalar_repr (hends : EndsValue rest) :
    scalar (z.repr.toList ++ rest) = bounded z rest := by
  rw [scalar, orElse_of_none (bind_of_none (text_repr z rest)),
    orElse_of_none (boolean_repr z rest), orElse_of_none (date_repr z hends),
    orElse_of_none (real_repr z hends), integer_repr z hends]

/-- **An integer is a value if it has 64 bits**, and no value otherwise, however deep it is. -/
theorem value_repr (hends : EndsValue rest) (limit : Nat) :
    value limit (z.repr.toList ++ rest) =
      if Int64.minValue.toInt ≤ z ∧ z ≤ Int64.maxValue.toInt
      then some (.integer z, rest) else none := by
  have hscalar : scalar (z.repr.toList ++ rest) =
      if Int64.minValue.toInt ≤ z ∧ z ≤ Int64.maxValue.toInt
      then some (.integer z, rest) else none := by
    rw [scalar_repr z hends, bounded]
    split <;> rfl
  cases limit with
  | zero => exact hscalar
  | succ limit =>
    have harray : array (value limit) (z.repr.toList ++ rest) = none :=
      bind_of_none (mark_of_head_ne rfl (head_repr_ne z rest (by decide) (by decide)))
    have hbraces : braces (value limit) (z.repr.toList ++ rest) = none :=
      bind_of_none (mark_of_head_ne rfl (head_repr_ne z rest (by decide) (by decide)))
    rw [value]
    by_cases hfits : Int64.minValue.toInt ≤ z ∧ z ≤ Int64.maxValue.toInt
    · rw [if_pos hfits] at hscalar ⊢
      exact orElse_of_some hscalar
    · rw [if_neg hfits] at hscalar ⊢
      rw [orElse_of_none hscalar, orElse_of_none harray, hbraces]

end Toml

end Ramp
