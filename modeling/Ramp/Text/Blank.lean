/-!
# `Text.Blank` — blank characters and trimming

A character is *blank* when it has the Unicode property `White_Space`; trimming drops blank
characters from both ends of a text and nothing else.

## Contents
- `isBlank`.
- `trimChars` on lists of characters and `trim` on strings.
- `trimChars_append`, `exists_append_trimChars`: exactly blanks at the ends are dropped; and the
  facts that a trimmed list neither starts nor ends with a blank and that trimming twice is trimming
  once.
-/

namespace Ramp.Text

/-- Whether a character has the Unicode property `White_Space`. -/
def isBlank (c : Char) : Bool :=
  let n := c.toNat
  (0x09 ≤ n && n ≤ 0x0D) || n == 0x20 || n == 0x85 || n == 0xA0 || n == 0x1680 ||
    (0x2000 ≤ n && n ≤ 0x200A) || n == 0x2028 || n == 0x2029 || n == 0x202F || n == 0x205F ||
    n == 0x3000

/-- A list of characters without the blanks at its two ends. -/
def trimChars (cs : List Char) : List Char :=
  ((cs.dropWhile isBlank).reverse.dropWhile isBlank).reverse

/-- A text without the blanks at its two ends. -/
def trim (s : String) : String :=
  String.ofList (trimChars s.toList)

@[simp] theorem toList_trim (s : String) : (trim s).toList = trimChars s.toList := by
  simp [trim]

@[simp] theorem trimChars_nil : trimChars [] = [] := rfl

/-- **Blanks at both ends do not matter.** -/
theorem trimChars_append {front back : List Char} (hfront : ∀ c ∈ front, isBlank c = true)
    (hback : ∀ c ∈ back, isBlank c = true) (cs : List Char) :
    trimChars (front ++ cs ++ back) = trimChars cs := by
  have hreverse : ∀ c ∈ back.reverse, isBlank c = true := by
    intro c hc
    exact hback c (List.mem_reverse.mp hc)
  have hnil : back.dropWhile isBlank = [] := by
    rw [← List.append_nil back, List.dropWhile_append_of_pos hback]
    rfl
  unfold trimChars
  rw [List.append_assoc, List.dropWhile_append_of_pos hfront, List.dropWhile_append]
  by_cases hempty : (cs.dropWhile isBlank).isEmpty
  · simp [hnil, List.isEmpty_iff.mp hempty]
  · rw [if_neg hempty, List.reverse_append, List.dropWhile_append_of_pos hreverse]

/-- What is left of a list by dropping does not start with what is dropped. -/
theorem head?_dropWhile_isBlank (cs : List Char) :
    ∀ c ∈ (cs.dropWhile isBlank).head?, isBlank c = false := by
  intro c hc
  have hnot := List.head?_dropWhile_not isBlank cs
  rw [Option.mem_def.mp hc] at hnot
  exact hnot

/-- **Nothing but blanks at the two ends is dropped.** -/
theorem exists_append_trimChars (cs : List Char) :
    ∃ front back, (∀ c ∈ front, isBlank c = true) ∧ (∀ c ∈ back, isBlank c = true) ∧
      cs = front ++ trimChars cs ++ back := by
  have htake : ∀ l : List Char, ∀ c ∈ l.takeWhile isBlank, isBlank c = true := by
    intro l
    exact List.all_eq_true.mp List.all_takeWhile
  refine ⟨cs.takeWhile isBlank, ((cs.dropWhile isBlank).reverse.takeWhile isBlank).reverse,
    htake cs, ?_, ?_⟩
  · intro c hc
    exact htake _ c (List.mem_reverse.mp hc)
  · unfold trimChars
    rw [List.append_assoc, ← List.reverse_append, List.takeWhile_append_dropWhile,
      List.reverse_reverse, List.takeWhile_append_dropWhile]

/-- A trimmed list does not end with a blank. -/
theorem getLast?_trimChars (cs : List Char) :
    ∀ c ∈ (trimChars cs).getLast?, isBlank c = false := by
  intro c hc
  unfold trimChars at hc
  rw [List.getLast?_reverse] at hc
  exact head?_dropWhile_isBlank _ c hc

/-- A trimmed list does not start with a blank: it starts as the list does behind its blanks. -/
theorem head?_trimChars (cs : List Char) : ∀ c ∈ (trimChars cs).head?, isBlank c = false := by
  intro c hc
  have hbehind : trimChars cs <+: cs.dropWhile isBlank := by
    have hsuffix : (cs.dropWhile isBlank).reverse.dropWhile isBlank <:+
        (cs.dropWhile isBlank).reverse := List.dropWhile_suffix isBlank
    unfold trimChars
    rwa [← List.reverse_suffix, List.reverse_reverse]
  obtain ⟨rest, hrest⟩ := hbehind
  apply head?_dropWhile_isBlank cs c
  rw [← hrest, List.head?_append, Option.mem_def.mp hc]
  rfl

/-- A list that neither starts nor ends with a blank is left alone. -/
theorem trimChars_eq_self {cs : List Char} (hhead : ∀ c ∈ cs.head?, isBlank c = false)
    (hlast : ∀ c ∈ cs.getLast?, isBlank c = false) : trimChars cs = cs := by
  have hdrop : ∀ l : List Char, (∀ c ∈ l.head?, isBlank c = false) → l.dropWhile isBlank = l := by
    intro l hl
    cases l with
    | nil => rfl
    | cons c r => simp [hl c (by simp)]
  rw [trimChars, hdrop cs hhead, hdrop cs.reverse, List.reverse_reverse]
  intro c hc
  exact hlast c (by simpa using hc)

/-- Trimming twice is trimming once. -/
@[simp] theorem trimChars_trimChars (cs : List Char) : trimChars (trimChars cs) = trimChars cs :=
  trimChars_eq_self (head?_trimChars cs) (getLast?_trimChars cs)

end Ramp.Text
