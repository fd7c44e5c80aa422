import Ramp.Proofs.JsonText
import Ramp.Proofs.Separation

/-!
# `Proofs.ArrayText` — a sequence as a JSON array

There are two ways to write a sequence. As text its values are joined by a separator; as JSON they
are items of a document, and the document is written by what writes all documents. The two meet in
the words of the document: commas stand between the words of items as a separator stands between
values, and the only word of an item is its integer in decimal (`charsOf_joined`). So the JSON array
is the text with a comma for a separator, in brackets. And since the integers of every type fit
64 bits, the document is one that JSON can hold, and it is read back as it is.

## Contents
- `Json.charsOf_joined`, `Json.toList_write_integers`: how integers in an array are written.
- `write_toDocument`: the two ways to write a sequence side by side.
- `limits_of_mem`, `isPlain_toDocument`: sequences fit JSON.
- `render_json`: the main result.
-/

namespace Ramp.Json

/-- **Words are written with commas between them as texts are joined by a comma.** -/
theorem charsOf_joined (parts : List (List Token)) :
    charsOf (joined parts) = [','].intercalate (parts.map charsOf) := by
  induction parts with
  | nil => rfl
  | cons part rest ih =>
    cases rest with
    | nil =>
      rw [joined, List.map_singleton, List.intercalate_singleton]
    | cons next rest =>
      have hcomma : Token.comma.chars = [','] := rfl
      rw [joined, charsOf_append, charsOf_cons, ih, hcomma]
      simp [List.intercalate_cons_cons]

/-- An integer is one word, and written in decimal. -/
theorem charsOf_words_integer (n : Int) : charsOf (words (.integer n)) = n.repr.toList := by
  show Token.chars (.scalar (.integer n)) ++ [] = n.repr.toList
  rw [List.append_nil]
  exact chars_integer n

/-- Integers are written with commas between them, in brackets. -/
theorem toList_write_integers (ns : List Int) :
    (write (.array (ns.map .integer))).toList =
      '[' :: [','].intercalate (ns.map fun n => n.repr.toList) ++ [']'] := by
  have hitems : (itemWords (ns.map .integer)).map charsOf = ns.map fun n => n.repr.toList := by
    rw [itemWords_eq, List.map_map, List.map_map]
    exact List.map_congr_left fun n _ => charsOf_words_integer n
  rw [toList_write, words, charsOf_cons, charsOf_append, charsOf_joined, hitems]
  simp [Token.chars]

end Ramp.Json

namespace Ramp.Sequence

open ElementType

variable {s : Sequence}

/-- The JSON array is the text with commas, in brackets. -/
theorem write_toDocument (s : Sequence) :
    Json.write s.toDocument = "[" ++ renderText "," s ++ "]" := by
  rw [← String.toList_inj, toDocument_eq_integers, Json.toList_write_integers]
  simp [toList_renderText]

/-- The values of a sequence fit 64 bits, signed or unsigned. -/
theorem limits_of_mem {n : Int} (h : n ∈ s.integers) :
    Int64.minValue.toInt ≤ n ∧ n < UInt64.size := by
  obtain ⟨v, -, rfl⟩ := List.mem_map.mp h
  exact v.toInt_mem_limits

/-- The document of a sequence is one that JSON can hold. -/
theorem isPlain_toDocument (s : Sequence) : s.toDocument.IsPlain := by
  rw [toDocument_eq_integers]
  refine .array fun item hitem => ?_
  obtain ⟨n, hn, rfl⟩ := List.mem_map.mp hitem
  obtain ⟨hlow, hhigh⟩ := limits_of_mem hn
  exact .integer hlow hhigh

/-! ## Main result -/

/-- **A sequence in JSON** is its text with a comma for a separator, in brackets, whatever separator
    the settings have. It is written for every sequence, and it is read back whole as the array of
    the integers of the sequence, in their order. -/
theorem render_json (s : Sequence) (separator : String) :
    s.render { format := .json, separator } =
        .ok ("[" ++ s.body { format := .text, separator := "," } ++ "]") ∧
      Json.read ("[" ++ s.body { format := .text, separator := "," } ++ "]") =
        ⟨.array (s.integers.map .integer), true⟩ := by
  have hwrite : s.render { format := .json, separator } = .ok (Json.write s.toDocument) := rfl
  have hbody : Json.write s.toDocument =
      "[" ++ s.body { format := .text, separator := "," } ++ "]" := write_toDocument s
  constructor
  · rw [hwrite, hbody]
  · rw [← hbody, Json.read_write (isPlain_toDocument s), toDocument_eq_integers]

/-- The outermost values of 64 bits are written in full. -/
example :
    body { format := .json } ⟨.i64, [⟨-9223372036854775808, by decide, by decide⟩]⟩ =
        "[-9223372036854775808]" ∧
      body { format := .json } ⟨.u64, [⟨18446744073709551615, by decide, by decide⟩]⟩ =
        "[18446744073709551615]" := by
  decide +kernel

end Ramp.Sequence
