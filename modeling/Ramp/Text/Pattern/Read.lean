import Ramp.Reader
import Ramp.Text.Blank
import Ramp.Text.Hex
import Ramp.Text.Pattern.Tree
import Ramp.Text.Ranges

/-!
# `Text.Pattern.Read` — how patterns are written

Most characters stand for themselves; `.` is any character, `^` and `$` are the ends of the text,
`|` stands between alternatives, and `?`, `*` and `+` repeat what stands before them, as often as
possible, or as seldom as possible with another `?` behind. Parentheses group, brackets list
characters, and a backslash changes the meaning of the next character. Counted repetitions and
classes by their Unicode names are not written.

## Contents
- `skip`: what means nothing in a spaced pattern.
- `escape`: a backslash and what it stands for.
- `brackets`: a set of characters.
- `groupStart`: how a group begins.
- `body`: what stands in a group.
- `Tree.ofText?`: the tree of a whole text.
-/

namespace Ramp.Text.Pattern

open Reader

/-- A text without the blanks and comments at its start. A comment ends with its line. -/
def dropFiller : Nat → List Char → List Char
  | 0, cs => cs
  | n + 1, cs =>
    match cs.dropWhile isBlank with
    | '#' :: rest => dropFiller n ((rest.dropWhile (· != '\n')).drop 1)
    | cs => cs

/-- Passes over blanks and comments in a spaced pattern. -/
def skip (isSpaced : Bool) : Reader Unit := fun cs =>
  some ((), if isSpaced then dropFiller (cs.length + 1) cs else cs)

/-- What a backslash stands for. -/
inductive Escape where
  | literal (c : Literal)
  | edge (edge : Edge)
  | letter (isNegated : Bool) (set : CharSet)
  deriving DecidableEq, Repr

/-- A character given by so many hexadecimal digits. -/
def codePoint (isSpaced : Bool) (digits : Nat) : Reader Char := do
  skip isSpaced
  let cs ← (List.range digits).mapM fun _ => do
    let c ← one fun c => (hexDigit? c).isSome
    skip isSpaced
    return c
  let n := cs.foldl (fun n c => n * 16 + (hexDigit? c).getD 0) 0
  if n.isValidChar then return Char.ofNat n else failure

/-- Whether a backslash makes a character stand for itself: ASCII but for letters, digits and the
    marks of borders. -/
def isEscapable (c : Char) : Bool :=
  c.toNat < 0x80 && !c.isAlphanum && c != '<' && c != '>'

/-- A backslash and what it stands for. -/
def escape (isSpaced : Bool) : Reader Escape := do
  mark "\\"
  match ← one fun _ => true with
  | 'd' => return .letter false .digit
  | 'D' => return .letter true .digit
  | 's' => return .letter false .blank
  | 'S' => return .letter true .blank
  | 'w' => return .letter false .word
  | 'W' => return .letter true .word
  | 'A' => return .edge .atStart
  | 'z' => return .edge .atEnd
  | 'b' => return .edge .atBorder
  | 'B' => return .edge .atNoBorder
  | '<' => return .edge .atWordStart
  | '>' => return .edge .atWordEnd
  | 'a' => return .literal ⟨Char.ofNat 0x07, false⟩
  | 'f' => return .literal ⟨Char.ofNat 0x0C, false⟩
  | 'v' => return .literal ⟨Char.ofNat 0x0B, false⟩
  | 't' => return .literal ⟨'\t', false⟩
  | 'n' => return .literal ⟨'\n', false⟩
  | 'r' => return .literal ⟨'\r', false⟩
  | 'x' => return .literal ⟨← codePoint isSpaced 2, true⟩
  | 'u' => return .literal ⟨← codePoint isSpaced 4, false⟩
  | 'U' => return .literal ⟨← codePoint isSpaced 8, false⟩
  | c => if isEscapable c then return .literal ⟨c, false⟩ else failure

/-- The sets with a name of their own. -/
def namedSets : List (String × CharSet) :=
  [("alnum", .ofRanges [('a', 'z'), ('A', 'Z'), ('0', '9')]),
    ("alpha", .ofRanges [('a', 'z'), ('A', 'Z')]),
    ("ascii", .range (Char.ofNat 0) (Char.ofNat 0x7F)),
    ("blank", .ofRanges [(' ', ' '), ('\t', '\t')]),
    ("cntrl", .ofRanges [(Char.ofNat 0, Char.ofNat 0x1F), (Char.ofNat 0x7F, Char.ofNat 0x7F)]),
    ("digit", .digit),
    ("graph", .range '!' '~'),
    ("lower", .range 'a' 'z'),
    ("print", .range ' ' '~'),
    ("punct", .ofRanges [('!', '/'), (':', '@'), ('[', '`'), ('\x7b', '~')]),
    ("space", .blank),
    ("upper", .range 'A' 'Z'),
    ("word", .word),
    ("xdigit", .ofRanges [('0', '9'), ('A', 'F'), ('a', 'f')])]

/-- Whether a mark comes, which is taken. -/
def given (wanted : String) : Reader Bool :=
  (do mark wanted; return true) <|> pure false

/-- A set by its name, between colons and brackets of its own. -/
def namedSet : Reader SetTree := do
  mark "[:"
  let isNegated ← given "^"
  let name ← takeAll Char.isAlpha
  mark ":]"
  match namedSets.lookup (String.ofList name) with
  | some set => return .named isNegated set
  | none => failure

/-- One member of a set, or a class by a backslash; some characters need the backslash. -/
def member (isSpaced : Bool) (needBackslash : List Char) : Reader Escape :=
  (do
    match ← escape isSpaced with
    | .edge _ => failure
    | found => return found) <|>
  (do return .literal ⟨← one fun c => c != '\\' && !needBackslash.contains c, false⟩)

/-- Characters from one to another, or a member alone. A dash at the end, and in front of another
    dash, is no part of it. -/
def span (isSpaced : Bool) : Reader SetTree := do
  let first ← member isSpaced ['[']
  skip isSpaced
  let last ← optional do
    mark "-"
    skip isSpaced
    member isSpaced [']', '-']
  match first, last with
  | .literal c, none => return .one c
  | .letter isNegated set, none => return .letter isNegated set
  | .literal c, some (.literal d) => if c.char ≤ d.char then return .span c d else failure
  | _, _ => failure

/-- The marks between sets that are combined. -/
def setOperation : Reader SetOperation :=
  (do mark "&&"; return .intersection) <|> (do mark "--"; return .difference) <|>
    (do mark "~~"; return .symmetricDifference)

/-- What has been read of a set in brackets. -/
structure SetProgress where
  /-- The sets before the last operation, and that operation. -/
  before : Option (SetTree × SetOperation) := none
  /-- The members behind it. -/
  members : Option SetTree := none

namespace SetProgress

/-- All of it. -/
def whole (progress : SetProgress) : SetTree :=
  let last := progress.members.getD .empty
  match progress.before with
  | some (before, operation) => .combined operation before last
  | none => last

/-- One member more. -/
def push (progress : SetProgress) (next : SetTree) : SetProgress :=
  match progress.members with
  | some members => { progress with members := some (.union members next) }
  | none => { progress with members := some next }

end SetProgress

/-- The rest of a set, up to the closing bracket. -/
def members (isSpaced : Bool) (nested : Reader SetTree) : Nat → SetProgress → Reader SetTree
  | 0, _ => failure
  | n + 1, progress => do
    skip isSpaced
    (do mark "]"; return progress.whole) <|>
      (do
        let operation ← setOperation
        members isSpaced nested n { before := some (progress.whole, operation) }) <|>
      (do
        let next ← namedSet <|> nested <|> span isSpaced
        members isSpaced nested n (progress.push next))

/-- A set between brackets; whether it is negated, and the set. Dashes or a closing bracket at its
    start stand for themselves. -/
def brackets (isSpaced : Bool) : Nat → Reader (Bool × SetTree)
  | 0 => failure
  | n + 1 => do
    mark "["
    skip isSpaced
    let isNegated ← given "^"
    skip isSpaced
    let dashes ← many (do mark "-"; skip isSpaced; return ⟨'-', false⟩)
    let first : List Literal ←
      if dashes.isEmpty then (do mark "]"; return [⟨']', false⟩]) <|> pure [] else pure dashes
    let progress := first.foldl (fun progress c => progress.push (.one c)) ({} : SetProgress)
    let nested : Reader SetTree := do
      let (isNegated, set) ← brackets isSpaced n
      return .nested isNegated set
    let set ← fun cs => members isSpaced nested (cs.length + 1) progress cs
    return (isNegated, set)

/-- The letter of a mode. -/
def flag? : Char → Option Flag
  | 'i' => some .foldsCase
  | 'm' => some .manyLines
  | 's' => some .pointIsAll
  | 'U' => some .swapsGreed
  | 'u' => some .isUnicode
  | 'R' => some .returnEndsLine
  | 'x' => some .isSpaced
  | _ => none

/-- The change that letters stand for, those behind a dash by being taken back. No letter comes
    twice. -/
def flagChange? (letters : List Char) : Option FlagChange := do
  let on ← (letters.takeWhile (· != '-')).mapM flag?
  match letters.dropWhile (· != '-') with
  | [] => if on.Nodup then return ⟨on, []⟩ else none
  | _ :: letters =>
    let off ← letters.mapM flag?
    if (on ++ off).Nodup ∧ off ≠ [] then return ⟨on, off⟩ else none

/-- How a group begins. -/
inductive GroupStart where
  | group (name : Option String) (change : FlagChange)
  /-- There is no group: the modes are changed for what follows. -/
  | change (change : FlagChange)
  deriving DecidableEq, Repr

/-- The name of a group. -/
def groupName : Reader GroupStart := do
  mark "?P<" <|> mark "?<"
  let first ← one fun c => c == '_' || isAlphabetic c
  let others ← takeAll fun c => c == '_' || c == '.' || c == '[' || c == ']' || isAlphanumeric c
  mark ">"
  return .group (some (String.ofList (first :: others))) {}

/-- The change of the modes at the start of a group, or in place of one. -/
def groupChange : Reader GroupStart := do
  mark "?"
  let letters ← takeAll fun c => c != ':' && c != ')'
  match flagChange? letters with
  | none => failure
  | some change =>
    (do mark ":"; return .group none change) <|>
      (if letters.isEmpty then failure else do mark ")"; return .change change)

/-- How a group begins, behind its parenthesis. -/
def groupStart : Reader GroupStart :=
  groupName <|> groupChange <|> (do ahead (· != some '?'); return .group none {})

/-- What has been read of a group. -/
structure Progress where
  /-- The alternatives before the current one. -/
  before : Option Tree := none
  /-- The current alternative, but for its last part. -/
  done : Option Tree := none
  /-- The last part. -/
  last : Option Tree := none

namespace Progress

/-- The current alternative, if it has parts. -/
def current (progress : Progress) : Option Tree :=
  match progress.done, progress.last with
  | some done, some last => some (.seq done last)
  | none, last => last
  | done, none => done

/-- All of it. -/
def whole (progress : Progress) : Tree :=
  let current := progress.current.getD .empty
  match progress.before with
  | some before => .alt before current
  | none => current

/-- One part more. -/
def push (progress : Progress) (t : Tree) : Progress :=
  { progress with done := progress.current, last := some t }

end Progress

/-- A mark of repetition, applied to what stands before it. A change of the modes cannot be
    repeated. -/
def repetition (last : Option Tree) : Reader Tree := do
  let count : Count ← (do mark "?"; return .atMostOnce) <|> (do mark "*"; return .any) <|>
    (do mark "+"; return .atLeastOnce)
  let isLazy ← given "?"
  match last with
  | none | some (.change _) => failure
  | some t => return .repetition count (!isLazy) t

/-- A part that is no group. -/
def part (isSpaced : Bool) : Reader Tree :=
  (do mark "."; return .point) <|>
  (do mark "^"; return .edge .atStart) <|>
  (do mark "$"; return .edge .atEnd) <|>
  (do
    match ← escape isSpaced with
    | .literal c => return .literal c
    | .edge e => return .edge e
    | .letter isNegated set => return .letter isNegated set) <|>
  (do
    let (isNegated, set) ← fun cs => brackets isSpaced (cs.length + 1) cs
    return .brackets isNegated set) <|>
  (do return .literal ⟨← one fun c => !"|?*+()[\\\x7b".toList.contains c, false⟩)

/-- What stands in a group, up to its closing parenthesis or the end of the text. -/
def body : Nat → Bool → Progress → Reader Tree
  | 0, _, _ => failure
  | n + 1, isSpaced, progress => do
    skip isSpaced
    (do
      mark "|"
      body n isSpaced { before := some progress.whole }) <|>
    (do
      let t ← repetition progress.last
      body n isSpaced { progress with last := some t }) <|>
    (do
      mark "("
      skip isSpaced
      match ← groupStart with
      | .change change =>
        body n (change.apply .isSpaced isSpaced) (progress.push (.change change))
      | .group name change =>
        let t ← body n (change.apply .isSpaced isSpaced) {}
        mark ")"
        body n isSpaced (progress.push (.group name change t))) <|>
    (do
      let t ← part isSpaced
      body n isSpaced (progress.push t)) <|>
    (do
      ahead fun c => c == none || c == some ')'
      return progress.whole)

/-- The tree of a text. -/
def Tree.ofText? (s : String) : Option Tree :=
  match body (s.toList.length + 1) false {} s.toList with
  | some (t, []) => some t
  | _ => none

end Ramp.Text.Pattern
