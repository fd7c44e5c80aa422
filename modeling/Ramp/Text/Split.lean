/-!
# `Text.Split` — texts cut at a mark

Cutting a text at a character gives the pieces between its occurrences, the empty ones too. A text
without the mark is one piece.

## Contents
- `splitChars` on lists of characters and `split` on strings.
-/

namespace Ramp.Text

/-- The pieces of a list of characters between the occurrences of a mark. -/
def splitChars (mark : Char) : List Char → List (List Char)
  | [] => [[]]
  | c :: rest =>
    if c = mark then [] :: splitChars mark rest
    else
      match splitChars mark rest with
      | [] => [[c]]
      | first :: others => (c :: first) :: others

/-- The pieces of a text between the occurrences of a mark. -/
def split (mark : Char) (s : String) : List String :=
  (splitChars mark s.toList).map String.ofList

end Ramp.Text
