import Ramp.Proofs.Separation

/-!
# `Proofs.TypeChoice` — what the choice of an element type decides

A sequence is written by its integers alone, and these are fixed by the first value and the length.
So the element type decides whether there is a sequence, and nothing about it: a type is a check of
the first value and the last one. The third check, of the room that the values take, is stricter for
wider types, and yet no request that one type meets is too large for another (`room_of_room`): the
widest types take eight bytes for a value, and where fewer bytes are taken so few values exist that
eight bytes for each of them are no problem.

## Contents
- `body_eq_of_integers`, `render_eq_of_integers`: sequences with the same integers are written the
  same.
- `exists_generate_iff`: when there is a sequence; `room_of_room`, and with it
  `exists_generate_iff_of_exists`: when there is one of another type too.
- `Embeds`, with `exists_generate_of_embeds`: types that have all values of another one.
- `body?`, and `generate_of_other_type`: the main result.
-/

namespace Ramp.Sequence

open ElementType Value

variable {ty ty' narrow wide : ElementType} {start : Int} {length : Nat} {s t : Sequence}

/-! ## How sequences are written -/

/-- **Sequences with the same integers have the same text**, whatever their types are. -/
theorem body_eq_of_integers (h : s.integers = t.integers) (settings : OutputSettings) :
    s.body settings = t.body settings := by
  unfold body
  cases settings.format with
  | text => rw [renderText, renderText, numerals_eq_integers, numerals_eq_integers, h]
  | json => rw [toDocument_eq_integers, toDocument_eq_integers, h]

/-- They are written the same, or neither has room for its text. -/
theorem render_eq_of_integers (h : s.integers = t.integers) (settings : OutputSettings) :
    s.render settings = t.render settings := by
  unfold render
  rw [numerals_eq_integers, numerals_eq_integers, h, body_eq_of_integers h]

/-- Requests that differ in the type only are met by the same integers, if they are met. -/
theorem integers_eq_of_generate (hs : generate ty start length = .ok s)
    (ht : generate ty' start length = .ok t) : s.integers = t.integers := by
  obtain ⟨-, hs⟩ := elementType_integers_of_generate hs
  obtain ⟨-, ht⟩ := elementType_integers_of_generate ht
  exact hs.trans ht.symm

/-! ## When there is a sequence -/

/-- There is a sequence exactly if the type has the first value and the last one, and the values
    have room. -/
theorem exists_generate_iff :
    (∃ s, generate ty start length = .ok s) ↔
      (ty.least ≤ start ∧ start ≤ ty.greatest) ∧
        (length = 0 ∨ start + ((length : Int) - 1) ≤ ty.greatest) ∧
        length * ty.bytes ≤ 9223372036854775807 := by
  constructor
  · rintro ⟨s, hs⟩
    have hgen := generation_generate ty start length
    rw [hs] at hgen
    cases hgen with
    | generated _ hl hg hbytes hlast => exact ⟨⟨hl, hg⟩, hlast, hbytes⟩
  · rintro ⟨⟨hl, hg⟩, hlast, hbytes⟩
    refine ⟨⟨ty, (⟨start, hl, hg⟩ : Value ty).run length⟩, ?_⟩
    rw [generate_of_mem hl hg, ofStart_of_last_le hbytes hlast]

theorem bytes_le (ty : ElementType) : ty.bytes ≤ 8 := by
  cases ty <;> decide

/-- A type that takes less than eight bytes for a value has at most `2 ^ 32` values. -/
theorem bytes_eq_or_span_le (ty : ElementType) : ty.bytes = 8 ∨ ty.span ≤ 4294967296 := by
  cases ty <;> decide

/-- **Values that have room in one type have room in every other**, if the first type has them. -/
theorem room_of_room (hl : ty.least ≤ start)
    (hlast : length = 0 ∨ start + ((length : Int) - 1) ≤ ty.greatest)
    (hroom : length * ty.bytes ≤ 9223372036854775807) (ty' : ElementType) :
    length * ty'.bytes ≤ 9223372036854775807 := by
  have height : length * ty'.bytes ≤ length * 8 := Nat.mul_le_mul_left length (bytes_le ty')
  rcases bytes_eq_or_span_le ty with hbytes | hspan
  · rw [hbytes] at hroom
    omega
  · -- the values from the first to the last are no more than the type has
    have hgreatest := greatest_eq ty
    omega

/-- **For a request that one type meets, another type checks the first and the last value only.** -/
theorem exists_generate_iff_of_exists (h : ∃ s, generate ty start length = .ok s)
    (ty' : ElementType) :
    (∃ t, generate ty' start length = .ok t) ↔
      (ty'.least ≤ start ∧ start ≤ ty'.greatest) ∧
        (length = 0 ∨ start + ((length : Int) - 1) ≤ ty'.greatest) := by
  obtain ⟨⟨hl, -⟩, hlast, hroom⟩ := exists_generate_iff.mp h
  rw [exists_generate_iff]
  constructor
  · rintro ⟨hstart, hlast', -⟩
    exact ⟨hstart, hlast'⟩
  · rintro ⟨hstart, hlast'⟩
    exact ⟨hstart, hlast', room_of_room hl hlast hroom ty'⟩

/-! ## Wider types -/

/-- Whether a type has all values of another one. -/
def Embeds (narrow wide : ElementType) : Prop :=
  ∀ v : Value narrow, ∃ w : Value wide, w.toInt = v.toInt

/-- A type that has all values of another one has its bounds around those of the other. -/
theorem bounds_of_embeds (h : Embeds narrow wide) :
    wide.least ≤ narrow.least ∧ narrow.greatest ≤ wide.greatest := by
  have hzero := narrow.least_le_zero
  have hzero' := narrow.zero_le_greatest
  obtain ⟨low, hlow⟩ := h ⟨narrow.least, by omega, by omega⟩
  obtain ⟨high, hhigh⟩ := h ⟨narrow.greatest, by omega, by omega⟩
  have hl := low.least_le
  have hg := high.le_greatest
  rw [hlow] at hl
  rw [hhigh] at hg
  exact ⟨hl, hg⟩

/-- **What a type meets is met by every type that has all of its values.** -/
theorem exists_generate_of_embeds (hembeds : Embeds narrow wide)
    (h : ∃ s, generate narrow start length = .ok s) :
    ∃ t, generate wide start length = .ok t := by
  obtain ⟨hleast, hgreatest⟩ := bounds_of_embeds hembeds
  obtain ⟨⟨hl, hg⟩, hlast, -⟩ := exists_generate_iff.mp h
  refine (exists_generate_iff_of_exists h wide).mpr ⟨⟨by omega, by omega⟩, ?_⟩
  omega

/-- What is written of the sequence that is asked for, if there is one. -/
def body? (settings : OutputSettings) (ty : ElementType) (start : Int) (length : Nat) :
    Option (Except Failure String) :=
  (generate ty start length).toOption.map (render settings)

/-- Types with the same values give the same body, or neither gives one. -/
theorem body?_eq_of_embeds (h : Embeds ty ty') (h' : Embeds ty' ty) (settings : OutputSettings) :
    body? settings ty start length = body? settings ty' start length := by
  unfold body?
  cases hs : generate ty start length with
  | ok s =>
    obtain ⟨t, ht⟩ := exists_generate_of_embeds h ⟨s, hs⟩
    rw [ht]
    exact congrArg some (render_eq_of_integers (integers_eq_of_generate hs ht) settings)
  | error why =>
    cases ht : generate ty' start length with
    | error why' => rfl
    | ok t =>
      obtain ⟨s, hs'⟩ := exists_generate_of_embeds h' ⟨t, ht⟩
      rw [hs] at hs'
      cases hs'

/-! ## Main result -/

/-- **The element type is a check of the range and nothing else.** Types that meet the same request
    give the same text, byte for byte, in either format. Once a request is met by some type, another
    type meets it exactly if it has the first and the last value, and so does every type that has
    all values of the first type. So it is all one whether the type is the signed one of 64 bits or
    the one of that width for sizes, and the same without signs. -/
theorem generate_of_other_type (start : Int) (length : Nat) :
    (∀ (ty ty' : ElementType) (s t : Sequence),
      generate ty start length = .ok s → generate ty' start length = .ok t →
        ∀ settings : OutputSettings, s.body settings = t.body settings ∧
          s.render settings = t.render settings) ∧
    (∀ ty ty' : ElementType, (∃ s, generate ty start length = .ok s) →
      ((∃ t, generate ty' start length = .ok t) ↔
        (ty'.least ≤ start ∧ start ≤ ty'.greatest) ∧
          (length = 0 ∨ start + ((length : Int) - 1) ≤ ty'.greatest))) ∧
    (∀ narrow wide : ElementType, (∀ v : Value narrow, ∃ w : Value wide, w.toInt = v.toInt) →
      (∃ s, generate narrow start length = .ok s) → ∃ t, generate wide start length = .ok t) ∧
    ∀ settings : OutputSettings,
      body? settings .isize start length = body? settings .i64 start length ∧
        body? settings .usize start length = body? settings .u64 start length := by
  refine ⟨?_, ?_, ?_, ?_⟩
  · intro ty ty' s t hs ht settings
    have hintegers := integers_eq_of_generate hs ht
    exact ⟨body_eq_of_integers hintegers settings, render_eq_of_integers hintegers settings⟩
  · intro ty ty' h
    exact exists_generate_iff_of_exists h ty'
  · intro narrow wide hembeds h
    exact exists_generate_of_embeds hembeds h
  · intro settings
    have hsigned : Embeds .isize .i64 := fun v => ⟨⟨v.toInt, v.least_le, v.le_greatest⟩, rfl⟩
    have hsigned' : Embeds .i64 .isize := fun v => ⟨⟨v.toInt, v.least_le, v.le_greatest⟩, rfl⟩
    have hplain : Embeds .usize .u64 := fun v => ⟨⟨v.toInt, v.least_le, v.le_greatest⟩, rfl⟩
    have hplain' : Embeds .u64 .usize := fun v => ⟨⟨v.toInt, v.least_le, v.le_greatest⟩, rfl⟩
    exact ⟨body?_eq_of_embeds hsigned hsigned' settings, body?_eq_of_embeds hplain hplain' settings⟩

/-- The last six values of one byte are values of two bytes with a sign too, and not of one. -/
theorem generate_of_other_type_lastBytes :
    ∃ s t, generate .u8 250 6 = .ok s ∧ generate .i16 250 6 = .ok t ∧
      s.render { separator := "," } = .ok "250,251,252,253,254,255" ∧
      t.render { separator := "," } = .ok "250,251,252,253,254,255" ∧
      ¬ ∃ s, generate .i8 250 6 = .ok s := by
  obtain ⟨hsame, hother, hwide, -⟩ := generate_of_other_type 250 6
  have hbytes : generate .u8 250 6 =
      .ok ⟨.u8, (⟨250, by decide, by decide⟩ : Value .u8).run 6⟩ := rfl
  have htext : body { separator := "," }
      ⟨.u8, (⟨250, by decide, by decide⟩ : Value .u8).run 6⟩ = "250,251,252,253,254,255" := by
    decide +kernel
  have hwritten : render { separator := "," }
      ⟨.u8, (⟨250, by decide, by decide⟩ : Value .u8).run 6⟩ = .ok "250,251,252,253,254,255" := by
    rw [← htext]
    refine render_of_fits fun _ => ?_
    rw [htext]
    decide
  have hembeds : ∀ v : Value .u8, ∃ w : Value .i16, w.toInt = v.toInt := by
    intro v
    have hl : 0 ≤ v.toInt := v.least_le
    have hg : v.toInt ≤ 255 := v.le_greatest
    refine ⟨⟨v.toInt, ?_, ?_⟩, rfl⟩
    · show -32768 ≤ v.toInt
      omega
    · show v.toInt ≤ 32767
      omega
  obtain ⟨t, ht⟩ := hwide .u8 .i16 hembeds ⟨_, hbytes⟩
  refine ⟨_, t, hbytes, ht, hwritten, ?_, ?_⟩
  · rw [← hwritten]
    exact (hsame .u8 .i16 _ t hbytes ht _).2.symm
  · rw [hother .u8 .i8 ⟨_, hbytes⟩]
    decide

end Ramp.Sequence
