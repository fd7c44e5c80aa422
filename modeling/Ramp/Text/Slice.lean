import Ramp.Text.Quoted

/-!
# `Text.Slice` — places counted in bytes

A place in a text is the number of bytes in front of it, as UTF-8 writes the text. A place inside a
character is no place to cut at.

## Contents
- `byteLength`.
- `dropBytes?`, `takeBytes?`: what lies behind and in front of a place.
- `slice?`: what lies between two places, with `slice?_append`; `sliceMessage`: what is said if it
  cannot be cut out.
-/

namespace Ramp.Text

/-- The number of bytes of a list of characters. -/
def byteLength : List Char → Nat
  | [] => 0
  | c :: rest => c.utf8Size + byteLength rest

@[simp] theorem byteLength_append (cs ds : List Char) :
    byteLength (cs ++ ds) = byteLength cs + byteLength ds := by
  induction cs with
  | nil => simp [byteLength]
  | cons c rest ih => simp [byteLength, ih, Nat.add_assoc]

/-- The characters behind a place. -/
def dropBytes? : Nat → List Char → Option (List Char)
  | 0, cs => some cs
  | _ + 1, [] => none
  | n + 1, c :: rest =>
    if c.utf8Size ≤ n + 1 then dropBytes? (n + 1 - c.utf8Size) rest else none

/-- The characters in front of a place. -/
def takeBytes? : Nat → List Char → Option (List Char)
  | 0, _ => some []
  | _ + 1, [] => none
  | n + 1, c :: rest =>
    if c.utf8Size ≤ n + 1 then (takeBytes? (n + 1 - c.utf8Size) rest).map (c :: ·) else none

/-- The characters between two places. -/
def slice? (start stop : Nat) (cs : List Char) : Option (List Char) :=
  (dropBytes? start cs).bind (takeBytes? (stop - start))

/-- One more character in front moves a place by the bytes that it takes. -/
theorem dropBytes?_cons (c : Char) (n : Nat) (rest : List Char) :
    dropBytes? (c.utf8Size + n) (c :: rest) = dropBytes? n rest := by
  obtain ⟨k, hk⟩ : ∃ k, c.utf8Size + n = k + 1 :=
    ⟨c.utf8Size + n - 1, by have := c.utf8Size_pos; omega⟩
  rw [hk, dropBytes?, if_pos (by omega), show k + 1 - c.utf8Size = n by omega]

theorem takeBytes?_cons (c : Char) (n : Nat) (rest : List Char) :
    takeBytes? (c.utf8Size + n) (c :: rest) = (takeBytes? n rest).map (c :: ·) := by
  obtain ⟨k, hk⟩ : ∃ k, c.utf8Size + n = k + 1 :=
    ⟨c.utf8Size + n - 1, by have := c.utf8Size_pos; omega⟩
  rw [hk, takeBytes?, if_pos (by omega), show k + 1 - c.utf8Size = n by omega]

theorem dropBytes?_append (front rest : List Char) :
    dropBytes? (byteLength front) (front ++ rest) = some rest := by
  induction front with
  | nil => cases rest <;> rfl
  | cons c front ih => rw [byteLength, List.cons_append, dropBytes?_cons, ih]

theorem takeBytes?_append (part rest : List Char) :
    takeBytes? (byteLength part) (part ++ rest) = some part := by
  induction part with
  | nil => cases rest <;> rfl
  | cons c part ih =>
    rw [byteLength, List.cons_append, takeBytes?_cons, ih]
    rfl

/-- **What stands between two places** can be cut out. -/
theorem slice?_append (front part rest : List Char) :
    slice? (byteLength front) (byteLength front + byteLength part) (front ++ (part ++ rest)) =
      some part := by
  rw [slice?, dropBytes?_append, Option.bind_some, Nat.add_sub_cancel_left, takeBytes?_append]

/-- The character that a place lies within, and its own place, where `first` is the place of the
    first character. -/
def charAround? (place : Nat) : Nat → List Char → Option (Nat × Char)
  | _, [] => none
  | first, c :: rest =>
    if place < first + c.utf8Size then some (first, c)
    else charAround? place (first + c.utf8Size) rest

/-- The characters that fit a number of bytes. -/
def takeWithin : Nat → List Char → List Char
  | _, [] => []
  | room, c :: rest =>
    if c.utf8Size ≤ room then c :: takeWithin (room - c.utf8Size) rest else []

/-- A text as a message shows it, cut off if it is long. -/
def excerpt (cs : List Char) : String :=
  let shown := takeWithin 256 cs
  "`" ++ String.ofList shown ++ "`" ++ if shown.length < cs.length then "[...]" else ""

/-- What is said if there are no characters to be had between two places, since one of them lies
    within a character. -/
def sliceMessage (start stop : Nat) (cs : List Char) : String :=
  let place := if (dropBytes? start cs).isNone then start else stop
  let around := match charAround? place 0 cs with
    | some (first, c) =>
      "'" ++ quoteChar c ++ "' (bytes " ++ first.repr ++ ".." ++ (first + c.utf8Size).repr ++ ")"
    | none => ""
  "byte index " ++ place.repr ++ " is not a char boundary; it is inside " ++ around ++ " of " ++
    excerpt cs

end Ramp.Text
