import Ramp.Json.Number
import Ramp.Text.Hex

/-!
# `Json.Token` — the words of a JSON text

## Contents
- `Token`.
- `lexText`: the inside of a text in quotes, up to the closing quote.
- `tokens`: all words of a text, up to the first place where it is wrong.
-/

namespace Ramp.Json

/-- A word of a JSON text. -/
inductive Token where
  | openArray
  | closeArray
  | openTable
  | closeTable
  | comma
  | colon
  /-- A value that is one word. -/
  | scalar (value : Document)
  /-- The text is wrong from here on. -/
  | broken

/-- Whether a character may stand between words. -/
def isGap (c : Char) : Bool :=
  c == ' ' || c == '\t' || c == '\n' || c == '\r'

/-- The code unit of four hexadecimal digits. -/
def codeUnit? (a b c d : Char) : Option Nat := do
  let high := (← Text.hexDigit? a) * 16 + (← Text.hexDigit? b)
  let low := (← Text.hexDigit? c) * 16 + (← Text.hexDigit? d)
  return high * 256 + low

/-- Whether a code unit is the first half of a pair. -/
def isHighHalf (unit : Nat) : Bool := 0xD800 ≤ unit && unit < 0xDC00

/-- Whether a code unit is the second half of a pair. -/
def isLowHalf (unit : Nat) : Bool := 0xDC00 ≤ unit && unit < 0xE000

/-- The character of a pair of code units. -/
def joinHalves (high low : Nat) : Char :=
  Char.ofNat (0x10000 + (high - 0xD800) * 0x400 + (low - 0xDC00))

/-- The character behind a backslash, unless it is written by a code unit. -/
def simpleEscape? : Char → Option Char
  | '"' => some '"'
  | '\\' => some '\\'
  | '/' => some '/'
  | 'b' => some (Char.ofNat 0x08)
  | 'f' => some (Char.ofNat 0x0C)
  | 'n' => some '\n'
  | 'r' => some '\r'
  | 't' => some '\t'
  | _ => none

/-- Appends a character to what is read, which is lost if the first half of a pair came before. -/
def append (read : Option (List Char)) (half : Option Nat) (c : Char) : Option (List Char) :=
  if half.isSome then none else read.map (c :: ·)

/-- Reads the inside of a text behind the characters already `read` (latest first) and behind the
    first `half` of a pair, if one came last. The text is `none` once half a pair stands alone;
    the result is `none` if the text is wrong. -/
def lexText : Option (List Char) → Option Nat → List Char →
    Option (Option String × List Char)
  | _, _, [] => none
  | read, half, '"' :: rest =>
    some (if half.isSome then none else read.map fun cs => String.ofList cs.reverse, rest)
  | read, half, '\\' :: 'u' :: a :: b :: c :: d :: rest =>
    match codeUnit? a b c d, half with
    | none, _ => none
    | some unit, some high =>
      lexText (if isLowHalf unit then append read none (joinHalves high unit) else none) none rest
    | some unit, none =>
      if isHighHalf unit then lexText read (some unit) rest
      else lexText (if isLowHalf unit then none else append read none (Char.ofNat unit)) none rest
  | read, half, '\\' :: c :: rest =>
    match simpleEscape? c with
    | none => none
    | some c => lexText (append read half c) none rest
  | read, half, c :: rest =>
    if c.toNat < 0x20 || c == '\\' then none else lexText (append read half c) none rest

/-- The first word of a text that does not start with a gap, and what follows it. -/
def firstToken : List Char → Token × List Char
  | [] => (.broken, [])
  | '[' :: rest => (.openArray, rest)
  | ']' :: rest => (.closeArray, rest)
  | '{' :: rest => (.openTable, rest)
  | '}' :: rest => (.closeTable, rest)
  | ',' :: rest => (.comma, rest)
  | ':' :: rest => (.colon, rest)
  | 'n' :: 'u' :: 'l' :: 'l' :: rest => (.scalar .null, rest)
  | 't' :: 'r' :: 'u' :: 'e' :: rest => (.scalar (.boolean true), rest)
  | 'f' :: 'a' :: 'l' :: 's' :: 'e' :: rest => (.scalar (.boolean false), rest)
  | '"' :: rest =>
    match lexText (some []) none rest with
    | some (text, rest) => (.scalar (.string text), rest)
    | none => (.broken, [])
  | cs =>
    match lexNumeral cs with
    | some (numeral, rest) => (.scalar numeral.value, rest)
    | none => (.broken, [])

/-- The words of a text, up to `fuel` of them. A text has no more words than characters. -/
def tokensUpTo : Nat → List Char → List Token
  | 0, _ => []
  | fuel + 1, cs =>
    match cs.dropWhile isGap with
    | [] => []
    | c :: rest =>
      match firstToken (c :: rest) with
      | (.broken, _) => [.broken]
      | (token, rest) => token :: tokensUpTo fuel rest

/-- The words of a text, up to the first place where it is wrong. -/
def tokens (cs : List Char) : List Token :=
  tokensUpTo cs.length cs

end Ramp.Json
