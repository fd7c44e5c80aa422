import Mathlib.Data.List.Basic
import Ramp.Proofs.Numerals
import Ramp.Proofs.Room

/-!
# `Proofs.Separation` — a written sequence can be read back

In text the values of a sequence stand between occurrences of a separator, and the separator is any
text: it may hold digits and minus signs, and it may overlap itself. What tells it from the values
is one character that no value has. The *first* such character of the text behind a value belongs to
the separator behind that value, and it stands at the same distance from the start of every
occurrence; so no occurrence starts within a value, wherever the separator has its digits. Cutting
at the leftmost occurrences therefore gives the values back, and with them everything that was asked
for.

## Contents
- `Text.pieces`, cut at the leftmost occurrences of a mark; `dropInfix?_eq_some_iff_first`.
- `length_le_of_occurrence`: no occurrence starts within a piece; `pieces_intercalate`.
- `Sequence.readBack`; `readBack_renderText`, `renderText_eq_empty_iff`.
- `render_text_decodable`: what the text of a generated sequence tells.
-/

namespace Ramp.Text

variable {mark cs before after : List Char}

/-! ## Cutting at the leftmost occurrences -/

/-- **The first occurrence of a mark**: the text is cut there, and no occurrence has less in front
    of it. -/
theorem dropInfix?_eq_some_iff_first :
    cs.dropInfix? mark = some (before, after) ↔
      cs = before ++ mark ++ after ∧
        ∀ front back, cs = front ++ mark ++ back → before.length ≤ front.length := by
  rw [List.dropInfix?_eq_some_iff]
  simp only [beq_iff_eq]
  constructor
  · rintro ⟨⟨_, hcut, rfl⟩, hfirst⟩
    exact ⟨hcut, fun front back h => hfirst front _ back h rfl⟩
  · rintro ⟨hcut, hfirst⟩
    refine ⟨⟨mark, hcut, rfl⟩, ?_⟩
    rintro front _ back h rfl
    exact hfirst front back h

/-- What is behind a mark is shorter than the text. -/
theorem length_lt_of_dropInfix? (hmark : mark ≠ [])
    (hfound : cs.dropInfix? mark = some (before, after)) : after.length < cs.length := by
  have hcut := (dropInfix?_eq_some_iff_first.mp hfound).1
  have hpos := List.length_pos_of_ne_nil hmark
  rw [hcut, List.length_append, List.length_append]
  omega

/-- The pieces of a text between the occurrences of a mark. These are looked for from left to right,
    each one behind the one before. -/
def pieces (mark cs : List Char) : List (List Char) :=
  if _ : mark = [] then [cs]
  else
    match _ : cs.dropInfix? mark with
    | none => [cs]
    | some (before, after) => before :: pieces mark after
termination_by cs.length
decreasing_by exact length_lt_of_dropInfix? ‹_› ‹_›

/-- A text without the mark is one piece. -/
theorem pieces_of_eq_none (hfound : cs.dropInfix? mark = none) : pieces mark cs = [cs] := by
  rw [pieces]
  split
  · rfl
  · split
    · rfl
    · next h =>
      rw [hfound] at h
      cases h

/-- A text is cut at the first occurrence, and what is behind it is cut on its own. -/
theorem pieces_of_eq_some (hmark : mark ≠ [])
    (hfound : cs.dropInfix? mark = some (before, after)) :
    pieces mark cs = before :: pieces mark after := by
  rw [pieces, dif_neg hmark]
  split
  · next h =>
    rw [hfound] at h
    cases h
  · next h =>
    rw [hfound] at h
    cases h
    rfl

/-! ## Marks with a character that no piece has -/

section Plain

variable {plain : Char → Bool} {piece : List Char}

/-- In front of a character that is not plain stand at most as many plain characters as there are
    characters. -/
theorem length_takeWhile_append_cons_le {c : Char} (hc : plain c = false) (front back : List Char) :
    ((front ++ c :: back).takeWhile plain).length ≤ front.length := by
  induction front with
  | nil => simp [hc]
  | cons d front ih =>
    rw [List.cons_append, List.takeWhile_cons]
    split
    · simpa using ih
    · simp

/-- **No occurrence of a mark starts within the piece in front of it**, if the mark has a character
    that is not plain and the piece has none. -/
theorem length_le_of_occurrence (hmark : ∃ c ∈ mark, plain c = false)
    (hpiece : ∀ c ∈ piece, plain c = true) {rest front back : List Char}
    (h : piece ++ mark ++ rest = front ++ mark ++ back) : piece.length ≤ front.length := by
  -- cut the mark at its first character that is not plain
  obtain ⟨c, hfind⟩ : ∃ c, mark.find? (fun c => !plain c) = some c := by
    rw [← Option.isSome_iff_exists, List.find?_isSome]
    simpa using hmark
  obtain ⟨hc, start, tail, rfl, hstart⟩ := List.find?_eq_some_iff_append.mp hfind
  have hc : plain c = false := by simpa using hc
  have hstart : ∀ d ∈ start, plain d = true := by simpa using hstart
  -- the text has this character first behind the piece and the start of the mark
  have hplain : ∀ d ∈ piece ++ start, plain d = true := by
    intro d hd
    rcases List.mem_append.mp hd with hd | hd
    · exact hpiece d hd
    · exact hstart d hd
  have hfirst : ((piece ++ (start ++ c :: tail) ++ rest).takeWhile plain) = piece ++ start := by
    rw [show piece ++ (start ++ c :: tail) ++ rest = (piece ++ start) ++ c :: (tail ++ rest) by
        simp,
      List.takeWhile_append_of_pos hplain, List.takeWhile_cons_of_neg (by simp [hc]),
      List.append_nil]
  -- the other occurrence has it behind its own start of the mark
  have hother := length_takeWhile_append_cons_le hc (front ++ start) (tail ++ back)
  rw [show (front ++ start) ++ c :: (tail ++ back) = front ++ (start ++ c :: tail) ++ back by simp,
    ← h, hfirst, List.length_append, List.length_append] at hother
  omega

/-- Behind a plain piece the text is cut. -/
theorem dropInfix?_append (hmark : ∃ c ∈ mark, plain c = false)
    (hpiece : ∀ c ∈ piece, plain c = true) (rest : List Char) :
    (piece ++ mark ++ rest).dropInfix? mark = some (piece, rest) :=
  dropInfix?_eq_some_iff_first.mpr ⟨rfl, fun _ _ h => length_le_of_occurrence hmark hpiece h⟩

/-- A plain piece is not cut. -/
theorem dropInfix?_eq_none (hmark : ∃ c ∈ mark, plain c = false)
    (hpiece : ∀ c ∈ piece, plain c = true) : piece.dropInfix? mark = none := by
  obtain ⟨c, hmem, hc⟩ := hmark
  cases hfound : piece.dropInfix? mark with
  | none => rfl
  | some cut =>
    obtain ⟨hcut, -⟩ := dropInfix?_eq_some_iff_first.mp hfound
    have hplain : plain c = true := hpiece c (by rw [hcut]; simp [hmem])
    rw [hc] at hplain
    cases hplain

/-- **Pieces with marks between them are found again**, if the mark has a character that is not
    plain and no piece has one. -/
theorem pieces_intercalate (hmark : ∃ c ∈ mark, plain c = false) {parts : List (List Char)}
    (hne : parts ≠ []) (hparts : ∀ part ∈ parts, ∀ c ∈ part, plain c = true) :
    pieces mark (mark.intercalate parts) = parts := by
  induction parts with
  | nil => exact absurd rfl hne
  | cons part others ih =>
    have hpart := hparts part (by simp)
    cases others with
    | nil =>
      rw [List.intercalate_singleton, pieces_of_eq_none (dropInfix?_eq_none hmark hpart)]
    | cons next others =>
      have hmarkne : mark ≠ [] := by
        obtain ⟨c, hmem, -⟩ := hmark
        exact List.ne_nil_of_mem hmem
      rw [List.intercalate_cons_cons, pieces_of_eq_some hmarkne (dropInfix?_append hmark hpart _),
        ih (List.cons_ne_nil next others) fun other hother => hparts other (by simp [hother])]

end Plain

end Ramp.Text

namespace Ramp.Sequence

open ElementType Value

/-! ## Reading a sequence back -/

/-- The integers of a text, cut at a separator, where every piece is read as a value of a type. -/
def readBack (ty : ElementType) (separator body : String) : List (Except Numeral.Refusal Int) :=
  (Text.pieces separator.toList body.toList).map
    (Numeral.readInt ty.least.natAbs ty.greatest.natAbs)

/-- Whether a character may stand in a written integer. -/
def isNumeral (c : Char) : Bool :=
  c.isDigit || c == '-'

/-- The text of a sequence is made of its integers. -/
theorem toList_renderText (separator : String) (s : Sequence) :
    (renderText separator s).toList =
      separator.toList.intercalate (s.integers.map fun n => n.repr.toList) := by
  rw [renderText, numerals, String.toList_intercalate, integers, List.map_map, List.map_map]
  rfl

/-- An integer of a sequence is written with numeral characters. -/
theorem isNumeral_of_mem_repr {n : Int} {c : Char} (h : c ∈ n.repr.toList) :
    isNumeral c = true := by
  rcases Numeral.isDigit_or_eq_of_mem_repr h with hdigit | hsign
  · simp [isNumeral, hdigit]
  · simp [isNumeral, hsign]

/-- The integers of a sequence are within the bounds of its type, and so they are read back. -/
theorem readInt_of_mem {s : Sequence} {n : Int} (h : n ∈ s.integers) :
    Numeral.readInt s.elementType.least.natAbs s.elementType.greatest.natAbs n.repr.toList =
      .ok n := by
  obtain ⟨v, -, rfl⟩ := List.mem_map.mp h
  have hleast := s.elementType.least_le_zero
  have hgreatest := s.elementType.zero_le_greatest
  have hl := v.least_le
  have hg := v.le_greatest
  exact Numeral.readInt_repr (by omega) (by omega)

/-- **What is written is read back**, if there is anything to write. -/
theorem readBack_renderText {s : Sequence} (hne : s.isEmpty = false) {separator : String}
    (hseparator : ∃ c ∈ separator.toList, isNumeral c = false) :
    readBack s.elementType separator (renderText separator s) = s.integers.map .ok := by
  have hparts : s.integers.map (fun n => n.repr.toList) ≠ [] := by
    intro hnil
    have hlength : s.integers.length = 0 := by simpa using congrArg List.length hnil
    rw [length_integers] at hlength
    simp [isEmpty, hlength] at hne
  have hplain : ∀ part ∈ s.integers.map (fun n => n.repr.toList), ∀ c ∈ part,
      isNumeral c = true := by
    intro part hpart c hc
    obtain ⟨n, -, rfl⟩ := List.mem_map.mp hpart
    exact isNumeral_of_mem_repr hc
  rw [readBack, toList_renderText, Text.pieces_intercalate hseparator hparts hplain, List.map_map]
  apply List.map_congr_left
  intro n hn
  exact readInt_of_mem hn

/-- Nothing is written exactly for an empty sequence, whatever the separator. -/
theorem renderText_eq_empty_iff {s : Sequence} (separator : String) :
    renderText separator s = "" ↔ s.isEmpty = true := by
  rw [← String.toList_inj, toList_renderText, isEmpty, beq_iff_eq, ← length_integers]
  cases s.integers with
  | nil => simp
  | cons n others =>
    have hfirst := Numeral.repr_ne_nil n
    cases others with
    | nil => simpa using hfirst
    | cons next others => simp [List.intercalate_cons_cons, hfirst]

/-- Two sequences of a type with the same text have the same integers. -/
theorem integers_eq_of_renderText {s t : Sequence} (htype : t.elementType = s.elementType)
    {separator : String} (hseparator : ∃ c ∈ separator.toList, isNumeral c = false)
    (htext : renderText separator t = renderText separator s) : t.integers = s.integers := by
  have hempty : t.isEmpty = true ↔ s.isEmpty = true := by
    rw [← renderText_eq_empty_iff separator, htext, renderText_eq_empty_iff]
  cases hs : s.isEmpty with
  | true =>
    have hlengths : s.length = 0 ∧ t.length = 0 :=
      ⟨beq_iff_eq.mp hs, beq_iff_eq.mp (hempty.mpr hs)⟩
    rw [← length_integers, ← length_integers] at hlengths
    rw [List.eq_nil_of_length_eq_zero hlengths.1, List.eq_nil_of_length_eq_zero hlengths.2]
  | false =>
    have ht : t.isEmpty = false := by
      rw [Bool.eq_false_iff]
      intro ht
      rw [hempty.mp ht] at hs
      cases hs
    -- both are read back from the one text
    have hread := readBack_renderText ht hseparator
    rw [htype, htext, readBack_renderText hs hseparator] at hread
    exact (List.map_inj_right fun _ _ h => Except.ok.inj h).mp hread.symm

/-! ## Main result -/

/-- **What the text of a generated sequence tells.** Whatever is written of it is this text, and it
    is written exactly if there is room. Whatever the separator, the text is empty exactly for an
    empty sequence. If the separator has a character that stands in no written integer, cutting the
    text at its leftmost occurrences and reading the pieces gives the values of the sequence, if
    there are any; and sequences of the type with the same text are of the same length and, if they
    have any values, from the same first one. -/
theorem render_text_decodable {ty : ElementType} {start : Int} {length : Nat} {s : Sequence}
    (h : generate ty start length = .ok s) :
    (∀ settings text, s.render settings = .ok text ↔
      s.Fits settings ∧ text = s.body settings) ∧
    (∀ separator, s.body { format := .text, separator } = "" ↔ s.isEmpty = true) ∧
      ∀ separator : String, (∃ c ∈ separator.toList, isNumeral c = false) →
        (s.isEmpty = false →
          readBack ty separator (s.body { format := .text, separator }) = s.integers.map .ok) ∧
        ∀ start' length' t, generate ty start' length' = .ok t →
          t.body { format := .text, separator } = s.body { format := .text, separator } →
            length' = length ∧ (length ≠ 0 → start' = start) := by
  obtain ⟨htype, hvalues⟩ := elementType_integers_of_generate h
  refine ⟨fun settings text => render_eq_ok_iff, renderText_eq_empty_iff,
    fun separator hseparator => ⟨?_, ?_⟩⟩
  · intro hne
    rw [← htype]
    exact readBack_renderText hne hseparator
  · intro start' length' t ht htext
    obtain ⟨httype, htvalues⟩ := elementType_integers_of_generate ht
    have hintegers := integers_eq_of_renderText (httype.trans htype.symm) hseparator htext
    -- runs of integers are told apart by their lengths and first values
    rw [htvalues, hvalues] at hintegers
    obtain ⟨hlength, hstart⟩ := range_map_add_inj.mp hintegers
    refine ⟨hlength, fun hne => hstart.resolve_right ?_⟩
    rw [hlength]
    exact hne

/-- A separator that starts and ends with a digit: the text is `-11x101x11`. -/
theorem render_text_decodable_digits :
    ∃ s, generate .i8 (-1) 3 = .ok s ∧ s.isEmpty = false ∧
      (∃ c ∈ "1x1".toList, isNumeral c = false) ∧
      s.render { format := .text, separator := "1x1" } = .ok "-11x101x11" ∧
      readBack .i8 "1x1" "-11x101x11" = [.ok (-1), .ok 0, .ok 1] ∧
      ∀ start' length' t, generate .i8 start' length' = .ok t →
        t.body { format := .text, separator := "1x1" } = "-11x101x11" →
          length' = 3 ∧ start' = -1 := by
  have hgenerate : generate .i8 (-1) 3 =
      .ok ⟨.i8, (⟨-1, by decide, by decide⟩ : Value .i8).run 3⟩ := rfl
  have htext : body { format := .text, separator := "1x1" }
      ⟨.i8, (⟨-1, by decide, by decide⟩ : Value .i8).run 3⟩ = "-11x101x11" := by
    decide +kernel
  have hfits : Fits { format := .text, separator := "1x1" }
      ⟨.i8, (⟨-1, by decide, by decide⟩ : Value .i8).run 3⟩ := by
    intro _
    rw [htext]
    decide
  have hmark : ∃ c ∈ "1x1".toList, isNumeral c = false := ⟨'x', by decide, by decide⟩
  obtain ⟨hwritten, -, hdecodable⟩ := render_text_decodable hgenerate
  obtain ⟨hread, hsame⟩ := hdecodable "1x1" hmark
  rw [htext] at hread hsame
  refine ⟨_, hgenerate, rfl, hmark, (hwritten _ _).mpr ⟨hfits, htext.symm⟩, hread rfl,
    fun start' length' t ht h => ?_⟩
  obtain ⟨hlength, hstart⟩ := hsame start' length' t ht h
  exact ⟨hlength, hstart (by decide)⟩

end Ramp.Sequence
