import Ramp.Text.Blank

/-!
# `Text.Normal` — the normal form of a word

Names of levels, formats and types are compared after trimming and after folding the letters `A`
to `Z`; no other character is folded.

## Contents
- `lower`: folds the ASCII capitals.
- `normalize`: trimmed and folded.
- `toNat_toLower`, `toLower_cases`: which characters are folded, and to which.
- `isBlank_toLower`, `trimChars_map_toLower`: folding makes no blanks and removes none, so it
  commutes with trimming; with that `normalize_normalize`.
-/

namespace Ramp.Text

/-- A text with `A` to `Z` folded to `a` to `z`. -/
def lower (s : String) : String :=
  String.ofList (s.toList.map Char.toLower)

@[simp] theorem toList_lower (s : String) : (lower s).toList = s.toList.map Char.toLower := by
  simp [lower]

/-- The normal form of a word: no blanks around it, no ASCII capitals in it. -/
def normalize (s : String) : String :=
  lower (trim s)

@[simp] theorem toList_normalize (s : String) :
    (normalize s).toList = (trimChars s.toList).map Char.toLower := by
  simp [normalize]

/-- What a character is folded to, by its number. -/
theorem toNat_toLower (c : Char) :
    c.toLower.toNat = if 65 ≤ c.toNat ∧ c.toNat ≤ 90 then c.toNat + 32 else c.toNat := by
  have hcapital : ('A'.val ≤ c.val ∧ c.val ≤ 'Z'.val) ↔ 65 ≤ c.toNat ∧ c.toNat ≤ 90 :=
    and_congr UInt32.le_iff_toNat_le UInt32.le_iff_toNat_le
  unfold Char.toLower
  by_cases h : 65 ≤ c.toNat ∧ c.toNat ≤ 90
  · rw [dif_pos (hcapital.mpr h), if_pos h]
    show (c.val + ('a'.val - 'A'.val)).toNat = c.toNat + 32
    rw [UInt32.toNat_add]
    show (c.toNat + 32) % 4294967296 = c.toNat + 32
    omega
  · rw [dif_neg (fun hval => h (hcapital.mp hval)), if_neg h]

/-- A character is folded only if it is a capital, and then to a character that is none. -/
theorem toLower_cases (c : Char) :
    c.toLower = c ∨ 65 ≤ c.toNat ∧ c.toNat ≤ 90 ∧ c.toLower.toNat = c.toNat + 32 := by
  have hfolded := toNat_toLower c
  split at hfolded
  · rename_i hcapital
    exact Or.inr ⟨hcapital.1, hcapital.2, hfolded⟩
  · exact Or.inl (Char.toNat_inj.mp hfolded)

/-- Folding makes no blanks and removes none. -/
theorem isBlank_toLower (c : Char) : isBlank c.toLower = isBlank c := by
  rcases toLower_cases c with hsame | ⟨hlow, hhigh, hfolded⟩
  · rw [hsame]
  · have hblank : ∀ d : Char, 65 ≤ d.toNat → d.toNat ≤ 122 → isBlank d = false := by
      intro d hd hd'
      simp only [isBlank, Bool.or_eq_false_iff, Bool.and_eq_false_iff, decide_eq_false_iff_not,
        beq_eq_false_iff_ne]
      omega
    rw [hblank c hlow (by omega), hblank c.toLower (by omega) (by omega)]

/-- Folding twice is folding once. -/
theorem toLower_toLower (c : Char) : c.toLower.toLower = c.toLower := by
  rcases toLower_cases c.toLower with hsame | ⟨hlow, hhigh, -⟩
  · exact hsame
  · -- a folded character is no capital
    rcases toLower_cases c with hsame | ⟨hlow', hhigh', hfolded⟩
    · rw [hsame, hsame]
    · omega

/-- **It does not matter whether a text is trimmed or folded first.** -/
theorem trimChars_map_toLower (cs : List Char) :
    trimChars (cs.map Char.toLower) = (trimChars cs).map Char.toLower := by
  have hsame : isBlank ∘ Char.toLower = isBlank := funext isBlank_toLower
  simp only [trimChars, List.dropWhile_map, hsame, ← List.map_reverse]

/-- **The normal form of a normal form is itself.** -/
@[simp] theorem normalize_normalize (s : String) : normalize (normalize s) = normalize s := by
  apply String.toList_injective
  simp only [toList_normalize, trimChars_map_toLower, trimChars_trimChars, List.map_map]
  apply List.map_congr_left
  intro c _
  exact toLower_toLower c

end Ramp.Text
