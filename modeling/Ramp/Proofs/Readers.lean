import Ramp.Reader

/-!
# `Proofs.Readers` — what readers take off a text

Two kinds of facts about readers, both of which go through chains, alternatives and repetitions:
what a reader does with a given text, step by step, and what holds of all that a reader takes off
any text.

## Contents
- `bind_of_some`, `orElse_of_none` and their siblings: readers applied to a text.
- `mark_of_head_ne`, `one_of_accept` and their siblings: single characters.
- `many_digits`: a repeated reader takes all digits.
- `Yields`, with `yields_bind`, `yields_orElse`, `yields_many` and `yields_foldlM`: what holds of
  all that a reader takes.
-/

namespace Ramp.Reader

variable {α β : Type} {cs after : List Char}

/-! ## Readers applied to a text -/

theorem bind_of_some {first : Reader α} {next : α → Reader β} {a : α}
    (h : first cs = some (a, after)) : (first >>= next) cs = next a after := by
  change Option.bind (first cs) _ = _
  rw [h]
  rfl

theorem bind_of_none {first : Reader α} {next : α → Reader β} (h : first cs = none) :
    (first >>= next) cs = none := by
  change Option.bind (first cs) _ = _
  rw [h]
  rfl

/-- A chain fails if its rest does wherever its first reader succeeds. -/
theorem bind_eq_none {first : Reader α} {next : α → Reader β}
    (h : ∀ a after, first cs = some (a, after) → next a after = none) :
    (first >>= next) cs = none := by
  cases hfirst : first cs with
  | none => exact bind_of_none hfirst
  | some found => rw [bind_of_some hfirst, h found.1 found.2 hfirst]

theorem orElse_of_some {first second : Reader α} {found : α × List Char}
    (h : first cs = some found) : (first <|> second) cs = some found := by
  change (first cs <|> second cs) = _
  rw [h]
  rfl

theorem orElse_of_none {first second : Reader α} (h : first cs = none) :
    (first <|> second) cs = second cs := by
  change (first cs <|> second cs) = _
  rw [h]
  rfl

theorem map_of_none {f : α → β} {reader : Reader α} (h : reader cs = none) :
    (f <$> reader) cs = none := by
  change Option.bind (reader cs) _ = _
  rw [h]
  rfl

theorem optional_of_none {reader : Reader α} (h : reader cs = none) :
    (optional reader) cs = some (none, cs) :=
  orElse_of_none (map_of_none h)

/-- A mark is not taken off a text that starts with another character. -/
theorem mark_of_head_ne {wanted : String} {c : Char} {others : List Char}
    (hwanted : wanted.toList = c :: others) (h : cs.head? ≠ some c) : mark wanted cs = none := by
  unfold mark
  rw [hwanted, if_neg]
  cases cs with
  | nil => simp
  | cons d rest =>
    have hne : c ≠ d := fun hcd => h (congrArg some hcd.symm)
    simp [List.isPrefixOf, hne]

/-- A mark of two characters is not taken off a text with another one in the second place. -/
theorem mark_of_second_ne {wanted : String} {c d : Char} (hwanted : wanted.toList = [c, d])
    (h : cs.tail.head? ≠ some d) : mark wanted cs = none := by
  unfold mark
  rw [hwanted, if_neg]
  rcases cs with _ | ⟨first, _ | ⟨second, rest⟩⟩
  · simp
  · simp [List.isPrefixOf]
  · have hne : d ≠ second := fun hd => h (congrArg some hd.symm)
    simp [List.isPrefixOf, hne]

/-- A mark of one character is taken off a text that starts with it. -/
theorem mark_of_head {wanted : String} {c : Char} (hwanted : wanted.toList = [c]) :
    mark wanted (c :: cs) = some ((), cs) := by
  have hlength : wanted.length = 1 := by
    rw [← String.length_toList, hwanted]
    rfl
  unfold mark
  rw [hwanted, hlength]
  simp [List.isPrefixOf]

theorem one_of_accept {accept : Char → Bool} {c : Char} (h : accept c = true) :
    one accept (c :: cs) = some (c, cs) := by
  simp [one, h]

theorem one_of_not_accept {accept : Char → Bool} (h : ∀ c ∈ cs.head?, accept c = false) :
    one accept cs = none := by
  cases cs with
  | nil => rfl
  | cons c rest => simp [one, h c rfl]

/-- **A repeated reader takes all digits** that it takes one by one, and stops behind them. -/
theorem many_digits {reader : Reader Char} {digits : List Char}
    (hone : ∀ c ∈ digits, ∀ more, reader (c :: more) = some (c, more))
    (hstop : reader after = none) : many reader (digits ++ after) = some (digits, after) := by
  have hupTo : ∀ fuel, digits.length ≤ fuel →
      upTo reader fuel (digits ++ after) = some (digits, after) := by
    induction digits with
    | nil =>
      intro fuel _
      cases fuel with
      | zero => rfl
      | succ fuel => exact orElse_of_none (bind_of_none hstop)
    | cons c digits ih =>
      intro fuel hfuel
      cases fuel with
      | zero => exact absurd hfuel (by simp)
      | succ fuel =>
        have hrest := ih (fun d hd => hone d (by simp [hd])) fuel (by simpa using hfuel)
        apply orElse_of_some
        rw [List.cons_append, bind_of_some (hone c (by simp) _), bind_of_some hrest]
        rfl
  exact hupTo _ (by simp)

/-! ## What holds of all that is taken -/

variable {P : α → Prop} {Q : β → Prop}

/-- **All that a reader takes off a text has a property.** -/
def Yields (P : α → Prop) (reader : Reader α) : Prop :=
  ∀ cs a rest, reader cs = some (a, rest) → P a

theorem yields_pure {a : α} (h : P a) : Yields P (pure a : Reader α) := by
  intro cs b rest hread
  cases hread
  exact h

theorem yields_failure : Yields P (failure : Reader α) := by
  intro cs a rest hread
  cases hread

/-- What comes out of a chain comes out of its last reader, which goes by what came before. -/
theorem yields_bind {first : Reader β} {next : β → Reader α} (hfirst : Yields Q first)
    (hnext : ∀ b, Q b → Yields P (next b)) : Yields P (first >>= next) := by
  intro cs a rest hread
  obtain ⟨⟨b, between⟩, hb, ha⟩ := Option.bind_eq_some_iff.mp hread
  exact hnext b (hfirst cs b between hb) between a rest ha

/-- A chain whose last reader goes by nothing. -/
theorem yields_seq {first : Reader β} {next : β → Reader α} (hnext : ∀ b, Yields P (next b)) :
    Yields P (first >>= next) :=
  yields_bind (Q := fun _ => True) (fun _ _ _ _ => trivial) fun b _ => hnext b

theorem yields_orElse {first second : Reader α} (hfirst : Yields P first)
    (hsecond : Yields P second) : Yields P (first <|> second) := by
  intro cs a rest hread
  cases h : first cs with
  | none =>
    rw [orElse_of_none h] at hread
    exact hsecond cs a rest hread
  | some found =>
    rw [orElse_of_some h] at hread
    exact hfirst cs a rest (h.trans hread)

theorem yields_ite {c : Prop} [Decidable c] {first second : Reader α} (hfirst : Yields P first)
    (hsecond : Yields P second) : Yields P (if c then first else second) := by
  split
  · exact hfirst
  · exact hsecond

theorem yields_upTo {reader : Reader α} (h : Yields P reader) (n : Nat) :
    Yields (fun found => ∀ a ∈ found, P a) (upTo reader n) := by
  induction n with
  | zero => exact yields_pure (by simp)
  | succ n ih =>
    refine yields_orElse (yields_bind h fun a ha => yields_bind ih fun rest hrest => ?_)
      (yields_pure (by simp))
    exact yields_pure (List.forall_mem_cons.mpr ⟨ha, hrest⟩)

theorem yields_many {reader : Reader α} (h : Yields P reader) :
    Yields (fun found => ∀ a ∈ found, P a) (many reader) :=
  fun cs => yields_upTo h cs.length cs

/-- What every step of a chain of readers keeps holds at its end. -/
theorem yields_foldlM {step : α → β → Reader α} {found : List β} {first : α} (hfirst : P first)
    (hstep : ∀ a, ∀ b ∈ found, P a → Yields P (step a b)) :
    Yields P (found.foldlM step first) := by
  induction found generalizing first with
  | nil => exact yields_pure hfirst
  | cons b rest ih =>
    rw [List.foldlM_cons]
    exact yields_bind (hstep first b (by simp) hfirst) fun next hnext =>
      ih hnext fun a other hother => hstep a other (by simp [hother])

/-- Something found otherwise, on the way of a reader. -/
theorem yields_lift {found : Option α} (h : ∀ a, found = some a → P a) :
    Yields P (liftM found : Reader α) := by
  intro cs a rest hread
  cases hfound : found with
  | none =>
    rw [hfound] at hread
    cases hread
  | some b =>
    rw [hfound] at hread
    cases hread
    exact h a hfound

end Ramp.Reader
