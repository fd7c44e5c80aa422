import Mathlib.Data.List.Basic
import Ramp.Proofs.Decoding
import Ramp.Session

/-!
# `Proofs.Cutting` — which texts cannot be cut

The places where a directive is cut are counted in the trimmed text, and its parts are taken from
the text with its blanks. That works wherever every place of the one is a place of the other: in a
text that does not begin with a blank, since then the trimmed text is its beginning; and in a text
whose characters take one byte each, since then every number up to its length is a place. So it
takes a blank in front and a wide character to stop a reading.

## Contents
- `Text.IsPlace`, with `exists_slice?`: what is cut between places is there.
- `Directive.KeepsPlaces`, with `keepsPlaces_of_head` and `keepsPlaces_of_narrow`.
- `Directive.Runs`: readings that are not stopped; `runs_cut_part`, `runs_readThreshold`,
  `runs_readSpan`, `runs_ofText`: the invariant is that what has been read ends at the place that is
  counted.
- `Directive.ofText_of_no_target`, `blank_and_wide_of_stopped`: what stops, and what it takes.
- `Filter.Stops`: values with which there is no filter; `exists_piece_of_stops`: what they look
  like.
- `Environment.Stops`, with `receiverOf_of_stops`: variables with which nobody receives events.
-/

namespace Ramp

namespace Text

/-! ## Places -/

/-- A place between two characters, or at an end. -/
def IsPlace (place : Nat) (cs : List Char) : Prop :=
  ∃ front, front <+: cs ∧ byteLength front = place

variable {start stop place : Nat} {cs : List Char}

theorem isPlace_byteLength_append (front rest : List Char) :
    IsPlace (byteLength front) (front ++ rest) :=
  ⟨front, List.prefix_append front rest, rfl⟩

theorem isPlace_byteLength (cs : List Char) : IsPlace (byteLength cs) cs :=
  ⟨cs, List.prefix_refl cs, rfl⟩

/-- No place is behind the end. -/
theorem IsPlace.le (h : IsPlace place cs) : place ≤ byteLength cs := by
  obtain ⟨front, ⟨rest, rfl⟩, rfl⟩ := h
  simp

/-- Only the empty list takes no bytes. -/
theorem eq_nil_of_byteLength (h : byteLength cs = 0) : cs = [] := by
  cases cs with
  | nil => rfl
  | cons c rest =>
    have hpos := c.utf8Size_pos
    rw [byteLength] at h
    omega

/-- **What lies between two places can be cut out.** -/
theorem exists_slice? (hstart : IsPlace start cs) (hstop : IsPlace stop cs) (hle : start ≤ stop) :
    ∃ part, slice? start stop cs = some part := by
  obtain ⟨front, hfront, rfl⟩ := hstart
  obtain ⟨upTo, hupTo, rfl⟩ := hstop
  have hprefix : front <+: upTo := by
    rcases List.prefix_or_prefix_of_prefix hfront hupTo with hbefore | ⟨more, rfl⟩
    · exact hbefore
    · have hmore : byteLength more = 0 := by
        rw [byteLength_append] at hle
        omega
      simp [eq_nil_of_byteLength hmore]
  obtain ⟨part, rfl⟩ := hprefix
  obtain ⟨rest, rfl⟩ := hupTo
  exact ⟨part, by rw [byteLength_append, List.append_assoc, slice?_append]⟩

/-- Where every character takes one byte, bytes are counted as characters are. -/
theorem byteLength_of_narrow (h : ∀ c ∈ cs, c.utf8Size = 1) : byteLength cs = cs.length := by
  induction cs with
  | nil => rfl
  | cons c rest ih =>
    rw [byteLength, h c (by simp), ih fun d hd => h d (by simp [hd]), List.length_cons,
      Nat.add_comm]

/-- There, every number up to the length is a place. -/
theorem isPlace_of_narrow (h : ∀ c ∈ cs, c.utf8Size = 1) (hle : place ≤ cs.length) :
    IsPlace place cs := by
  refine ⟨cs.take place, List.take_prefix place cs, ?_⟩
  rw [byteLength_of_narrow fun c hc => h c (List.mem_of_mem_take hc), List.length_take_of_le hle]

/-- What is taken from the front leaves the rest behind. -/
theorem takeWhile_append_drop (p : Char → Bool) (cs : List Char) :
    cs.takeWhile p ++ cs.drop (cs.takeWhile p).length = cs :=
  List.prefix_iff_eq_append.mp (List.takeWhile_prefix p)

end Text

namespace Log

open Text

namespace Directive

/-! ## Texts that keep their places -/

/-- Every place of the trimmed text is a place of the text. -/
def KeepsPlaces (s : String) : Prop :=
  ∀ place, IsPlace place (trimChars s.toList) → IsPlace place s.toList

variable {s : String}

/-- Without a blank in front the text begins as the trimmed one does. -/
theorem keepsPlaces_of_head (h : ∀ c ∈ s.toList.head?, isBlank c = false) : KeepsPlaces s := by
  obtain ⟨front, back, hfront, -, htext⟩ := exists_append_trimChars s.toList
  have hnil : front = [] := by
    cases front with
    | nil => rfl
    | cons c rest =>
      have hblank := hfront c (by simp)
      rw [h c (by rw [htext]; rfl)] at hblank
      cases hblank
  rw [hnil, List.nil_append] at htext
  rintro place ⟨front, hprefix, hplace⟩
  exact ⟨front, by rw [htext]; exact hprefix.trans (List.prefix_append _ back), hplace⟩

/-- Where every character takes one byte, the text is as long as the trimmed one or longer. -/
theorem keepsPlaces_of_narrow (h : ∀ c ∈ s.toList, c.utf8Size = 1) : KeepsPlaces s := by
  obtain ⟨front, back, -, -, htext⟩ := exists_append_trimChars s.toList
  have hsub : trimChars s.toList ⊆ s.toList := by
    intro c hc
    rw [htext]
    simp [hc]
  have hlength : (trimChars s.toList).length ≤ s.toList.length := by
    conv_rhs => rw [htext]
    simp only [List.length_append]
    omega
  intro place hplace
  have hle := hplace.le
  rw [byteLength_of_narrow fun c hc => h c (hsub hc)] at hle
  exact isPlace_of_narrow h (Nat.le_trans hle hlength)

/-! ## Readings that are not stopped -/

/-- A reading is not stopped: it succeeds, or is refused. -/
def Runs {α : Type} (reading : Except Fault α) : Prop :=
  ∀ message, reading ≠ .error (.stopped message)

section Runs

variable {α β : Type}

theorem runs_ok (a : α) : Runs (.ok a : Except Fault α) := by
  rintro message ⟨⟩

theorem runs_refused : Runs (.error .refused : Except Fault α) := by
  rintro message ⟨⟩

theorem runs_accept (a : Option α) : Runs (accept a) := by
  cases a with
  | none => exact runs_refused
  | some a => exact runs_ok a

/-- Two readings in a chain are not stopped if neither of them is. -/
theorem Runs.bind {reading : Except Fault α} {next : α → Except Fault β} (h : Runs reading)
    (hnext : ∀ a, Runs (next a)) : Runs (reading >>= next) := by
  intro message hstopped
  rcases Except.bind_eq_error_iff.mp hstopped with hstopped | ⟨a, -, hstopped⟩
  · exact h message hstopped
  · exact hnext a message hstopped

end Runs

variable {all trimmed rest : List Char} {start stop place : Nat}

theorem runs_cut (hstart : IsPlace start all) (hstop : IsPlace stop all) (hle : start ≤ stop) :
    Runs (cut start stop all) := by
  obtain ⟨part, hpart⟩ := exists_slice? hstart hstop hle
  rw [cut, hpart]
  exact runs_ok _

/-- A part of the trimmed text can be cut out of a text that keeps its places. -/
theorem runs_cut_part (hkeeps : ∀ place, IsPlace place trimmed → IsPlace place all)
    {front part behind : List Char} (h : trimmed = front ++ (part ++ behind)) :
    Runs (cut (byteLength front) (byteLength front + byteLength part) all) := by
  rw [← byteLength_append]
  refine runs_cut (hkeeps _ ?_) (hkeeps _ ?_) (by simp)
  · exact h ▸ isPlace_byteLength_append front _
  · rw [h, ← List.append_assoc]
    exact isPlace_byteLength_append _ behind

theorem runs_readThreshold (hkeeps : ∀ place, IsPlace place trimmed → IsPlace place all)
    (front : List Char) (htrimmed : trimmed = front ++ rest) (hplace : byteLength front = place)
    (directive : Directive) : Runs (readThreshold all place directive rest) := by
  fun_cases readThreshold all place directive rest with
  | case1 => exact runs_ok _
  | case2 rest =>
    have hmark : IsPlace (place + 1) all :=
      hkeeps _ ⟨front ++ ['='], ⟨rest, by simp [htrimmed]⟩, by rw [byteLength_append, hplace]; rfl⟩
    refine (runs_cut hmark (isPlace_byteLength all) hmark.le).bind fun name => ?_
    split
    · exact runs_ok _
    · exact (runs_accept _).bind fun threshold => runs_ok _
  | case3 => exact runs_refused

/-- What has been read of a span ends at the place that is counted, whichever part comes next. -/
theorem runs_readSpan (hkeeps : ∀ place, IsPlace place trimmed → IsPlace place all)
    (front : List Char) (htrimmed : trimmed = front ++ rest) (hplace : byteLength front = place)
    (directive : Directive) : Runs (readSpan all place directive rest) := by
  subst hplace
  unfold readSpan
  have hname := takeWhile_append_drop (fun c => c != ']' && c != '\x7b') rest
  generalize rest.takeWhile (fun c => c != ']' && c != '\x7b') = name at hname
  dsimp only
  -- the span ends behind its name, or a field between braces comes first
  split
  next behind hbehind =>
    rw [hbehind] at hname
    have hinside : trimmed = front ++ (name ++ ']' :: behind) := by rw [hname, htrimmed]
    refine (runs_cut_part hkeeps hinside).bind fun name' => ?_
    refine runs_readThreshold hkeeps (front ++ name ++ [']']) ?_ ?_ _
    · simp [htrimmed, ← hname]
    · simp only [byteLength_append]
      rfl
  next behind hbehind =>
    rw [hbehind] at hname
    have hinside : trimmed = front ++ (name ++ '\x7b' :: behind) := by rw [hname, htrimmed]
    refine (runs_cut_part hkeeps hinside).bind fun name' => ?_
    have hfield := takeWhile_append_drop (· != '\x7d') behind
    generalize behind.takeWhile (· != '\x7d') = field at hfield
    split
    next behind' hbehind' =>
      rw [hbehind'] at hfield
      have hall : trimmed = (front ++ name ++ ['\x7b']) ++ (field ++ '\x7d' :: behind') := by
        simp [htrimmed, ← hname, ← hfield]
      have hstart : byteLength (front ++ name ++ ['\x7b']) =
          byteLength front + byteLength name + 1 := by
        simp only [byteLength_append]
        rfl
      have hpart := runs_cut_part hkeeps hall
      rw [hstart] at hpart
      refine hpart.bind fun text => (runs_accept _).bind fun condition => ?_
      split
      next behind'' =>
        refine runs_readThreshold hkeeps
          (front ++ name ++ ['\x7b'] ++ field ++ ['\x7d', ']']) ?_ ?_ _
        · simp [hall]
        · rw [byteLength_append, byteLength_append, hstart]
          rfl
      next => exact runs_refused
    next => exact runs_refused
  next => exact runs_refused

/-- **A text that keeps its places is never stopped at.** -/
theorem runs_ofText (h : KeepsPlaces s) : Runs (ofText s) := by
  unfold ofText
  dsimp only
  split
  next => exact runs_refused
  next rest htrimmed => exact runs_readSpan h ['['] htrimmed rfl _
  next first rest hfirst htrimmed =>
    split
    next =>
      have hword := takeWhile_append_drop (fun c => c != '=' && c != '[') (trimChars s.toList)
      generalize (trimChars s.toList).takeWhile (fun c => c != '=' && c != '[') = word at hword
      have htarget : Runs (cut 0 (byteLength word) s.toList) := by
        have hall : trimChars s.toList = [] ++ (word ++ _) := hword.symm
        rw [← Nat.zero_add (byteLength word)]
        exact runs_cut_part h hall
      split
      next => split <;> exact runs_ok _
      next behind hbehind =>
        refine htarget.bind fun target => runs_readSpan h (word ++ ['[']) ?_ ?_ _
        · rw [List.append_assoc, List.singleton_append, ← hbehind, hword]
        · rw [byteLength_append]
          rfl
      next =>
        exact htarget.bind fun target => runs_readThreshold h word hword.symm rfl _
    next => exact runs_refused

/-- **A target that cannot be cut out stops the reading**: the place where it ends in the trimmed
    text lies within a character of the text. -/
theorem ofText_of_no_target (first : Char) (word rest : List Char)
    (htrimmed : trimChars s.toList = first :: word ++ '=' :: rest) (hstart : canStart first = true)
    (hword : ∀ c ∈ first :: word, (c != '=' && c != '[') = true)
    (hslice : slice? 0 (byteLength (first :: word)) s.toList = none) :
    ofText s = .error (.stopped (sliceMessage 0 (byteLength (first :: word)) s.toList)) := by
  have htake :
      (trimChars s.toList).takeWhile (fun c => c != '=' && c != '[') = first :: word := by
    rw [htrimmed, List.takeWhile_append_of_pos hword, List.takeWhile_cons]
    simp
  have hdrop : (trimChars s.toList).drop (first :: word).length = '=' :: rest := by
    rw [htrimmed, List.drop_left]
  unfold ofText
  dsimp only
  rw [htake, hdrop]
  split
  next hnone => simp [htrimmed] at hnone
  next hbracket =>
    rw [htrimmed] at hbracket
    cases hbracket
    simp at hword
  next hfirst =>
    rw [htrimmed] at hfirst
    cases hfirst
    rw [if_pos hstart, cut, hslice]
    rfl

/-- **Whoever is stopped at a text** finds a blank in front of it, and a wide character in it. -/
theorem blank_and_wide_of_stopped {message : String} (h : ofText s = .error (.stopped message)) :
    (∃ c ∈ s.toList.head?, isBlank c = true) ∧ ∃ c ∈ s.toList, c.utf8Size ≠ 1 := by
  constructor
  · by_contra hblank
    refine runs_ofText (keepsPlaces_of_head fun c hc => ?_) message h
    exact Bool.eq_false_iff.mpr fun hc' => hblank ⟨c, hc, hc'⟩
  · by_contra hwide
    refine runs_ofText (keepsPlaces_of_narrow fun c hc => ?_) message h
    exact Classical.byContradiction fun hc' => hwide ⟨c, hc, hc'⟩

end Directive

namespace Filter

/-! ## Values that stop the reading -/

/-- **A value stops the reading**: whoever asks for its filter is aborted. -/
def Stops (value : Option String) : Prop :=
  ∃ message, ofValue value = .error (.stopped message)

/-- A list that is stopped at is so at one of its directives. -/
theorem exists_of_mapM_eq_error {fault : Directive.Fault} {texts : List String}
    (h : texts.mapM Directive.ofText = .error fault) :
    ∃ text ∈ texts, Directive.ofText text = .error fault := by
  induction texts with
  | nil => cases h
  | cons text rest ih =>
    rw [List.mapM_cons] at h
    rcases Except.bind_eq_error_iff.mp h with h | ⟨directive, -, h⟩
    · exact ⟨text, by simp, h⟩
    · rcases Except.bind_eq_error_iff.mp h with h | ⟨directives, -, h⟩
      · obtain ⟨other, hother, hfault⟩ := ih h
        exact ⟨other, by simp [hother], hfault⟩
      · cases h

/-- **What stops the reading**: one of the directives has a blank in front of it, and a wide
    character in it. -/
theorem exists_piece_of_stops {value : String} (h : Stops (some value)) :
    ∃ piece ∈ pieces value, (∃ c ∈ piece.toList.head?, isBlank c = true) ∧
      ∃ c ∈ piece.toList, c.utf8Size ≠ 1 := by
  obtain ⟨message, h⟩ := h
  cases hread : (pieces value).mapM Directive.ofText with
  | ok directives =>
    rw [ofValue, parse, hread] at h
    cases h
  | error fault =>
    rw [ofValue, parse, hread] at h
    cases h
    obtain ⟨piece, hpiece, hstopped⟩ := exists_of_mapM_eq_error hread
    exact ⟨piece, hpiece, Directive.blank_and_wide_of_stopped hstopped⟩

/-- A value that stops the reading: it begins with a blank of three bytes. -/
def unreadableValue : String := "\u3000a=info"

theorem ofValue_unreadableValue : ofValue (some unreadableValue) =
    .error (.stopped (sliceMessage 0 1 unreadableValue.toList)) := by
  have hpieces : pieces unreadableValue = [unreadableValue] := by
    decide +kernel
  have hstopped : Directive.ofText unreadableValue =
      .error (.stopped (sliceMessage 0 1 unreadableValue.toList)) :=
    Directive.ofText_of_no_target 'a' [] ['i', 'n', 'f', 'o'] (by decide +kernel)
      (by decide +kernel) (by simp) (by decide +kernel)
  rw [ofValue, parse, hpieces, List.mapM_cons, hstopped]
  rfl

end Filter

end Log

open Log

variable {environment : Environment}

/-- **The variables stop the reading** of what is let through. -/
def Environment.Stops (environment : Environment) : Prop :=
  Filter.Stops (environment Filter.variableName)

/-- Variables that are no filter do not stop the reading. -/
theorem Environment.not_stops_of_refused
    (h : Filter.ofValue (environment Filter.variableName) = .error .refused) :
    ¬ environment.Stops := by
  rintro ⟨message, hstopped⟩
  rw [h] at hstopped
  cases hstopped

/-- With variables that do, nobody can be told where events go, whatever the settings are. -/
theorem Session.receiverOf_of_stops (h : environment.Stops) :
    ∃ message, ∀ settings, receiverOf environment settings = .error message := by
  obtain ⟨message, hvalue⟩ := h
  refine ⟨message, fun settings => ?_⟩
  rw [receiverOf, Receiver.ofSettings, Filter.ofSettings, hvalue]
  rfl

/-- Variables that stop the reading. -/
def unreadableVariables : Environment
  | "RUST_LOG" => some Filter.unreadableValue
  | _ => none

theorem stops_unreadableVariables : unreadableVariables.Stops :=
  ⟨_, Filter.ofValue_unreadableValue⟩

end Ramp
