import Ramp.Json.Read
import Ramp.Proofs.JsonWords

/-!
# `Proofs.JsonText` — a document that is written is read back

Between a document and its text stand its words. Writing a document is writing its words one behind
the other (`toList_write`), and since a value is followed by punctuation or by nothing, the words of
the text are the same again (`tokens_write`). Reading them puts the document into the innermost open
container, whatever that is and whatever words follow (`Puts`). Arrays and tables differ in what
their parts are, and in nothing else that matters here (`IsContainer`).

## Contents
- `Document.IsPlain`: the documents that JSON can hold, with integers that fit 64 bits.
- `words` and its siblings, with `toList_write`: the words of a document, and its text.
- `ReadBack`, with `readBack_words` and `tokens_write`: the words of the text.
- `Puts` and `IsContainer`, with `build_container` and `puts_of_isPlain`: the document of the words.
- `read_write`: the main result.
-/

namespace Ramp

/-- **A document that JSON can hold**: names are texts, and numbers are integers that fit 64 bits,
    signed or unsigned. -/
inductive Document.IsPlain : Document → Prop where
  | null : IsPlain .null
  | boolean (value : Bool) : IsPlain (.boolean value)
  | integer {value : Int} (hlow : Int64.minValue.toInt ≤ value) (hhigh : value < UInt64.size) :
    IsPlain (.integer value)
  | string (text : String) : IsPlain (.string (some text))
  | array {items : List Document} (h : ∀ item ∈ items, IsPlain item) : IsPlain (.array items)
  | table {members : List (Document × Document)}
      (hname : ∀ member ∈ members, ∃ name, member.1 = .string (some name))
      (hvalue : ∀ member ∈ members, IsPlain member.2) : IsPlain (.table members)

namespace Json

/-! ## The words of a document -/

/-- Lists of words with commas between them. -/
def joined : List (List Token) → List Token
  | [] => []
  | [part] => part
  | part :: next :: rest => part ++ .comma :: joined (next :: rest)

mutual

/-- The words that a document is written with. -/
def words : Document → List Token
  | .array items => .openArray :: (joined (itemWords items) ++ [.closeArray])
  | .tables items => .openArray :: (joined (itemWords items) ++ [.closeArray])
  | .table members => .openTable :: (joined (memberWords members) ++ [.closeTable])
  | value => [.scalar value]

/-- The words of each item. -/
def itemWords : List Document → List (List Token)
  | [] => []
  | item :: rest => words item :: itemWords rest

/-- The words of each member. -/
def memberWords : List (Document × Document) → List (List Token)
  | [] => []
  | member :: rest => pairWords member :: memberWords rest

/-- The words of a name and a value. -/
def pairWords : Document × Document → List Token
  | (name, value) => words name ++ .colon :: words value

end

theorem itemWords_eq (items : List Document) : itemWords items = items.map words := by
  induction items with
  | nil => rfl
  | cons item rest ih => rw [itemWords, ih, List.map_cons]

theorem memberWords_eq (members : List (Document × Document)) :
    memberWords members = members.map pairWords := by
  induction members with
  | nil => rfl
  | cons member rest ih => rw [memberWords, ih, List.map_cons]

theorem pairWords_string (name : String) (value : Document) :
    pairWords (.string (some name), value) =
      .scalar (.string (some name)) :: .colon :: words value := rfl

/-- How words are written. -/
def charsOf (tokens : List Token) : List Char :=
  tokens.flatMap Token.chars

@[simp] theorem charsOf_nil : charsOf [] = [] := rfl

@[simp] theorem charsOf_cons (token : Token) (tokens : List Token) :
    charsOf (token :: tokens) = token.chars ++ charsOf tokens := rfl

@[simp] theorem charsOf_append (first second : List Token) :
    charsOf (first ++ second) = charsOf first ++ charsOf second :=
  List.flatMap_append

mutual

/-- **Writing a document is writing its words**, behind what is written already. -/
theorem toList_writeOnto (out : String) (document : Document) :
    (writeOnto out document).toList = out.toList ++ charsOf (words document) := by
  cases document with
  | array items =>
    rw [writeOnto, String.toList_push, toList_writeItems]
    simp [words, Token.chars]
  | tables items =>
    rw [writeOnto, String.toList_push, toList_writeItems]
    simp [words, Token.chars]
  | table members =>
    rw [writeOnto, String.toList_push, toList_writeMembers]
    simp [words, Token.chars]
  | _ => simp [words, Token.chars, write, writeOnto]

theorem toList_writeItems (out : String) (items : List Document) :
    (writeItems out items).toList = out.toList ++ charsOf (joined (itemWords items)) := by
  cases items with
  | nil => simp [writeItems, itemWords, joined]
  | cons item rest =>
    cases rest with
    | nil =>
      rw [writeItems, toList_writeOnto]
      rfl
    | cons next rest =>
      rw [writeItems, toList_writeItems, String.toList_push, toList_writeOnto]
      simp [itemWords, joined, Token.chars]

theorem toList_writeMembers (out : String) (members : List (Document × Document)) :
    (writeMembers out members).toList = out.toList ++ charsOf (joined (memberWords members)) := by
  cases members with
  | nil => simp [writeMembers, memberWords, joined]
  | cons member rest =>
    cases rest with
    | nil =>
      rw [writeMembers, toList_writeMember]
      rfl
    | cons next rest =>
      rw [writeMembers, toList_writeMembers, String.toList_push, toList_writeMember]
      simp [memberWords, joined, Token.chars]

theorem toList_writeMember (out : String) (member : Document × Document) :
    (writeMember out member).toList = out.toList ++ charsOf (pairWords member) := by
  cases member with
  | mk name value =>
    rw [writeMember, pairWords, toList_writeOnto, String.toList_push, toList_writeOnto]
    simp [Token.chars]

end

/-- The text of a document is that of its words. -/
theorem toList_write (document : Document) : (write document).toList = charsOf (words document) :=
  toList_writeOnto "" document

/-! ## The words of a written document -/

/-- **Words that are read back**, in front of every text that does not go on with a number. -/
def ReadBack (tokens : List Token) : Prop :=
  ∀ cs rest, EndsNumber cs → Lexes cs rest → Lexes (charsOf tokens ++ cs) (tokens ++ rest)

theorem readBack_nil : ReadBack [] := by
  intro cs rest _ h
  exact h

/-- A value is read back, since what follows does not go on with it. -/
theorem readBack_value {value : Document} (h : (Token.scalar value).IsPlain) :
    ReadBack [.scalar value] := by
  intro cs rest hends hrest
  rw [charsOf_cons, charsOf_nil, List.append_nil]
  exact .cons h (fun _ _ => hends) hrest

/-- Words on both sides of a mark are read back, since the mark ends the first ones. -/
theorem ReadBack.around {first second : List Token} {mark : Token} (hfirst : ReadBack first)
    (hmark : mark.IsMark) (hsecond : ReadBack second) : ReadBack (first ++ mark :: second) := by
  intro cs rest hends hrest
  rw [charsOf_append, charsOf_cons, List.append_assoc, List.append_assoc, List.append_assoc]
  -- in front of the mark the first words are at their end, and behind it the second ones begin
  refine hfirst _ _ (endsNumber_mark hmark _) ?_
  exact .cons (.mark hmark) (fun value hvalue => absurd hvalue (ne_scalar_of_isMark hmark value))
    (hsecond cs rest hends hrest)

/-- Words between two marks are read back. -/
theorem ReadBack.between {inner : List Token} {first last : Token} (hinner : ReadBack inner)
    (hfirst : first.IsMark) (hlast : last.IsMark) : ReadBack (first :: (inner ++ [last])) :=
  readBack_nil.around hfirst (hinner.around hlast readBack_nil)

/-- Parts with commas between them are read back. -/
theorem readBack_joined {parts : List (List Token)} (h : ∀ part ∈ parts, ReadBack part) :
    ReadBack (joined parts) := by
  induction parts with
  | nil => exact readBack_nil
  | cons part rest ih =>
    have hpart := h part (by simp)
    cases rest with
    | nil => exact hpart
    | cons next rest =>
      exact hpart.around .comma (ih fun other hother => h other (by simp [hother]))

/-- **The words of a plain document are read back.** -/
theorem readBack_words {document : Document} (h : document.IsPlain) :
    ReadBack (words document) := by
  induction h with
  | null => exact readBack_value .null
  | boolean value => exact readBack_value (.boolean value)
  | integer hlow hhigh => exact readBack_value (.integer hlow hhigh)
  | string text => exact readBack_value (.string text)
  | array _ ih =>
    refine (readBack_joined ?_).between .openArray .closeArray
    rw [itemWords_eq]
    exact List.forall_mem_map.mpr ih
  | table hname _ ih =>
    refine (readBack_joined ?_).between .openTable .closeTable
    rw [memberWords_eq]
    refine List.forall_mem_map.mpr fun member hmember => ?_
    obtain ⟨name, hname⟩ := hname member hmember
    have hvalue := ih member hmember
    cases member with
    | mk key value =>
      cases hname
      exact (readBack_value (.string name)).around .colon hvalue

/-- **The words of a written document** are those that it is written with. -/
theorem tokens_write {document : Document} (h : document.IsPlain) :
    tokens (write document).toList = words document := by
  have hlexes := readBack_words h [] [] endsNumber_nil .nil
  rw [List.append_nil, List.append_nil, ← toList_write] at hlexes
  exact tokens_of_lexes hlexes

/-! ## Reading the words of a document -/

/-- Reads on after a word. -/
def resume : Progress → List Token → Document × List Token
  | .open frames next, rest => build frames next rest
  | .whole document, rest => (document, rest)
  | .stuck document, _ => (document, [])

/-- Reading is one word after the other. -/
theorem build_cons (frames : List Frame) (next : Expectation) (token : Token) (rest : List Token) :
    build frames next (token :: rest) = resume (advance frames next token) rest := by
  rw [build]
  cases advance frames next token <;> rfl

/-- **A value may come next**, be it the first one of an array. -/
inductive ExpectsValue : List Frame → Expectation → Prop where
  | due (frames : List Frame) : ExpectsValue frames .value
  | first (items : List Document) (frames : List Frame) :
    ExpectsValue (.array items :: frames) .firstOrClose

variable {frames : List Frame} {next : Expectation}

theorem advance_of_expectsValue (h : ExpectsValue frames next) (token : Token)
    (hopen : token ≠ .closeArray) : advance frames next token = advanceValue frames token := by
  cases h with
  | due => rfl
  | first =>
    cases token with
    | closeArray => exact absurd rfl hopen
    | _ => rfl

/-- **The words of a document put it** where a value may come. -/
def Puts (document : Document) : Prop :=
  ∀ frames next rest, ExpectsValue frames next →
    build frames next (words document ++ rest) = resume (deliver document frames) rest

theorem puts_value {value : Document} (hwords : words value = [.scalar value]) : Puts value := by
  intro frames next rest h
  rw [hwords, List.cons_append, List.nil_append, build_cons,
    advance_of_expectsValue h _ (by simp)]
  rfl

/-- **An open container**, whose parts are due at `due` and which `close` closes: a comma lets the
    next part come, and the closing bracket puts the whole into the container around it, also before
    the first part. -/
structure IsContainer {α : Type} (frame : List α → Frame) (due : Expectation) (close : Token)
    (whole : List α → Document) : Prop where
  comma : ∀ found frames, advance (frame found :: frames) .commaOrClose .comma =
    .open (frame found :: frames) due
  close_empty : ∀ frames, advance (frame [] :: frames) .firstOrClose close =
    deliver (whole []) frames
  close : ∀ found frames, advance (frame found :: frames) .commaOrClose close =
    deliver (whole found.reverse) frames

theorem isContainer_array : IsContainer .array .value .closeArray .array :=
  ⟨fun _ _ => rfl, fun _ => rfl, fun _ _ => rfl⟩

theorem isContainer_table : IsContainer .table .name .closeTable .table :=
  ⟨fun _ _ => rfl, fun _ => rfl, fun _ _ => rfl⟩

section Container

variable {α : Type} {frame : List α → Frame} {due : Expectation} {close : Token}
  {whole : List α → Document} {part : α → List Token} {items : List α}

/-- Parts are put into the container one after the other, if each one is. -/
theorem build_joined (hcontainer : IsContainer frame due close whole)
    (hparts : ∀ a ∈ items, ∀ found next rest, next = due ∨ next = .firstOrClose →
      build (frame found :: frames) next (part a ++ rest) =
        build (frame (a :: found) :: frames) .commaOrClose rest)
    (hne : items ≠ []) (found : List α) (hnext : next = due ∨ next = .firstOrClose)
    (rest : List Token) :
    build (frame found :: frames) next (joined (items.map part) ++ rest) =
      build (frame (items.reverse ++ found) :: frames) .commaOrClose rest := by
  -- what is found grows at the front, and behind a comma the next part is due
  induction items generalizing found next with
  | nil => exact absurd rfl hne
  | cons a others ih =>
    have ha := hparts a (by simp) found next
    cases others with
    | nil => exact ha rest hnext
    | cons b others =>
      have hothers := ih (fun c hc => hparts c (List.mem_cons_of_mem a hc))
        (List.cons_ne_nil b others) (a :: found) (Or.inl rfl)
      have hfound : (a :: b :: others).reverse ++ found = (b :: others).reverse ++ a :: found := by
        rw [List.reverse_cons, List.append_assoc]
        rfl
      rw [hfound, ← hothers, List.map_cons, List.map_cons, joined, List.append_assoc, ha _ hnext,
        List.cons_append, build_cons, hcontainer.comma, resume]

/-- **The words of a container put it**, if the words of its parts put them into it. -/
theorem build_container (hcontainer : IsContainer frame due close whole)
    (hparts : ∀ a ∈ items, ∀ found next rest, next = due ∨ next = .firstOrClose →
      build (frame found :: frames) next (part a ++ rest) =
        build (frame (a :: found) :: frames) .commaOrClose rest) (rest : List Token) :
    build (frame [] :: frames) .firstOrClose (joined (items.map part) ++ [close] ++ rest) =
      resume (deliver (whole items) frames) rest := by
  rw [List.append_assoc, List.cons_append, List.nil_append]
  by_cases hne : items = []
  · subst hne
    rw [List.map_nil, joined, List.nil_append, build_cons, hcontainer.close_empty]
  · rw [build_joined hcontainer hparts hne [] (Or.inr rfl), build_cons, hcontainer.close,
      List.append_nil, List.reverse_reverse]

end Container

/-- A name and a value are put into the table that is open. -/
theorem build_pairWords {name : String} {value : Document} (hvalue : Puts value)
    {found : List (Document × Document)} (hnext : next = .name ∨ next = .firstOrClose)
    (rest : List Token) :
    build (.table found :: frames) next (pairWords (.string (some name), value) ++ rest) =
      build (.table ((.string (some name), value) :: found) :: frames) .commaOrClose rest := by
  have hname : advance (.table found :: frames) next (.scalar (.string (some name))) =
      .open (.member found (.string (some name)) :: frames) .colon := by
    rcases hnext with rfl | rfl <;> rfl
  have hcolon : advance (.member found (.string (some name)) :: frames) .colon .colon =
      .open (.member found (.string (some name)) :: frames) .value := rfl
  rw [pairWords_string, List.cons_append, List.cons_append, build_cons, hname, resume, build_cons,
    hcolon, resume, hvalue _ _ _ (.due _)]
  rfl

/-- **The words of a plain document put it** into whatever is open, whatever words follow. -/
theorem puts_of_isPlain {document : Document} (h : document.IsPlain) : Puts document := by
  induction h with
  | null => exact puts_value rfl
  | boolean value => exact puts_value rfl
  | integer hlow hhigh => exact puts_value rfl
  | string text => exact puts_value rfl
  | array _ ih =>
    intro frames next rest hnext
    have hopen := advance_of_expectsValue hnext .openArray (by simp)
    rw [words, List.cons_append, build_cons, hopen, advanceValue, resume, itemWords_eq]
    -- an item is put where a value may come, which is so at first and behind every comma
    apply build_container isContainer_array
    intro item hitem found next rest hnext
    rcases hnext with rfl | rfl
    · exact ih item hitem _ _ rest (.due _)
    · exact ih item hitem _ _ rest (.first found frames)
  | table hnames _ ih =>
    intro frames next rest hnext
    have hopen := advance_of_expectsValue hnext .openTable (by simp)
    rw [words, List.cons_append, build_cons, hopen, advanceValue, resume, memberWords_eq]
    apply build_container isContainer_table
    intro member hmember found next rest hnext
    obtain ⟨name, hname⟩ := hnames member hmember
    have hvalue := ih member hmember
    cases member with
    | mk key value =>
      cases hname
      exact build_pairWords hvalue hnext rest

/-! ## Main result -/

/-- **A document that JSON can hold is read back** from the text that is written for it, and nothing
    is left over. -/
theorem read_write {document : Document} (h : document.IsPlain) :
    read (write document) = ⟨document, true⟩ := by
  have hbuild := puts_of_isPlain h [] .value [] (.due [])
  rw [List.append_nil] at hbuild
  rw [read, tokens_write h, hbuild]
  rfl

end Json

end Ramp
