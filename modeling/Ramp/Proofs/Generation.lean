import Ramp.Proofs.Run
import Ramp.Sequence

/-!
# `Proofs.Generation` — what becomes of every request for a sequence

A request is a type, a first value and a length. Three checks stand in its way, and their order
shows: a first value outside the type is reported even for no values at all, and a sequence that no
memory can hold ends everything before its range is looked at. `Generation` says this without
computing anything, and `generate_eq_iff` says that it leaves exactly one outcome.

## Contents
- `Sequence.integers`: the values as integers; `ext_integers`: with the type they are all there is.
- `generate_of_outside`, `ofStart_of_tooLarge`, `ofStart_of_overflow`, `ofStart_of_last_le`: the
  four ways a request ends.
- `Generation`, the four outcomes; `generation_generate`, `Generation.unique`.
- `generate_inj`: when two requests give the same sequence.
- `generate_eq_iff`: the outcome of every request.
-/

namespace Ramp.Sequence

open ElementType Value

/-! ## Sequences as integers -/

/-- The values of a sequence as integers. -/
def integers (s : Sequence) : List Int :=
  s.values.map Value.toInt

@[simp] theorem length_integers (s : Sequence) : s.integers.length = s.length := by
  simp [integers, length]

/-- A sequence is its type and its integers. -/
theorem ext_integers {s t : Sequence} (htype : s.elementType = t.elementType)
    (hvalues : s.integers = t.integers) : s = t := by
  obtain ⟨ty, values⟩ := s
  obtain ⟨ty', values'⟩ := t
  cases htype
  have hinj : ∀ v w : Value ty, v.toInt = w.toInt → v = w := fun v w h => Value.ext h
  have heq : values = values' := (List.map_inj_right hinj).mp hvalues
  rw [heq]

/-- The document of a sequence is made of its integers. -/
theorem toDocument_eq_integers (s : Sequence) :
    s.toDocument = .array (s.integers.map .integer) := by
  unfold toDocument integers
  rw [List.map_map]
  rfl

/-- The integers of a sequence are those from `start` on exactly when it has so many values and
    index `i` holds `start + i`. -/
theorem integers_eq_iff {s : Sequence} {start : Int} {n : Nat} :
    s.integers = (List.range n).map (fun i : Nat => start + i) ↔
      s.length = n ∧ ∀ i < n, (s.values[i]?).map Value.toInt = some (start + i) := by
  constructor
  · intro h
    have hlength : s.length = n := by
      rw [← length_integers, h, List.length_map, List.length_range]
    refine ⟨hlength, fun i hi => ?_⟩
    rw [← List.getElem?_map, show s.values.map Value.toInt = s.integers from rfl, h,
      List.getElem?_map, List.getElem?_range hi]
    rfl
  · rintro ⟨hlength, hvalues⟩
    apply List.ext_getElem?
    intro i
    by_cases hi : i < n
    · rw [integers, List.getElem?_map, hvalues i hi, List.getElem?_map, List.getElem?_range hi]
      rfl
    · rw [List.getElem?_eq_none (by simp; omega), List.getElem?_eq_none (by simp; omega)]

/-- Two runs of integers are the same exactly when their lengths are, and their starts, if there are
    any integers in them. -/
theorem range_map_add_inj {a b : Int} {m n : Nat} :
    (List.range m).map (fun i : Nat => a + i) = (List.range n).map (fun i : Nat => b + i) ↔
      m = n ∧ (a = b ∨ m = 0) := by
  constructor
  · intro h
    have hlength : m = n := by simpa using congrArg List.length h
    refine ⟨hlength, ?_⟩
    cases m with
    | zero => exact Or.inr rfl
    | succ k =>
      subst hlength
      have hhead := congrArg List.head? h
      simp only [List.range_succ_eq_map, List.map_cons, List.head?_cons, Option.some.injEq] at hhead
      exact Or.inl (by omega)
  · rintro ⟨rfl, rfl | rfl⟩ <;> rfl

/-! ## The four ways a request ends -/

/-- The greatest number of bytes is the greatest signed number of 64 bits. -/
theorem byteLimit_eq : byteLimit = 9223372036854775807 := by
  decide

variable {ty : ElementType} {start : Int} {length : Nat}

/-- From an integer that is none of the type nothing is generated, whatever the length. -/
theorem generate_of_outside (h : ¬ (ty.least ≤ start ∧ start ≤ ty.greatest)) (length : Nat) :
    generate ty start length = .error (.startOutside start ty) := by
  rw [generate, Value.ofInt?_eq_none_iff.mpr (by omega)]

/-- From an integer of the type on, the length decides. -/
theorem generate_of_mem (hl : ty.least ≤ start) (hg : start ≤ ty.greatest) (length : Nat) :
    generate ty start length = ofStart ⟨start, hl, hg⟩ length := by
  have hv : Value.ofInt? ty start = some ⟨start, hl, hg⟩ := Value.ofInt?_eq_some_iff.mpr rfl
  rw [generate, hv]

theorem ofStart_of_tooLarge (start : Value ty) (h : 9223372036854775807 < length * ty.bytes) :
    ofStart start length = .error .tooLarge := by
  rw [ofStart, byteLimit_eq, if_pos h]

theorem ofStart_of_overflow {start : Value ty}
    (hbytes : length * ty.bytes ≤ 9223372036854775807) (hpos : 0 < length)
    (hlast : ty.greatest < start.toInt + ((length : Int) - 1)) :
    ofStart start length = .error (.overflow ⟨ty, start.toInt.repr, length⟩) := by
  rw [ofStart, byteLimit_eq, if_neg (Nat.not_lt.mpr hbytes), Buffer.run?]
  cases hrefuse : Buffer.refuse? start length with
  | none =>
    have := Buffer.refuse?_eq_none_iff.mp hrefuse
    omega
  | some report => rw [Buffer.eq_of_refuse?_eq_some hrefuse]

theorem ofStart_of_last_le {start : Value ty}
    (hbytes : length * ty.bytes ≤ 9223372036854775807)
    (hlast : length = 0 ∨ start.toInt + ((length : Int) - 1) ≤ ty.greatest) :
    ofStart start length = .ok ⟨ty, start.run length⟩ := by
  rw [ofStart, byteLimit_eq, if_neg (Nat.not_lt.mpr hbytes), Buffer.run?,
    Buffer.refuse?_eq_none_iff.mpr hlast]

/-- A run that fits holds the integers from its first value on. -/
theorem integers_run {start : Value ty}
    (hlast : length = 0 ∨ start.toInt + ((length : Int) - 1) ≤ ty.greatest) :
    integers ⟨ty, start.run length⟩ = (List.range length).map fun i : Nat => start.toInt + i := by
  refine integers_eq_iff.mpr ⟨Value.length_run start length, fun i hi => ?_⟩
  rcases hlast with hempty | hlast
  · omega
  · exact Value.getElem?_run hlast hi

/-! ## Exactly one outcome -/

/-- **What becomes of a request.** The cases exclude one another: each holds only if none of the
    conditions before it does. -/
inductive Generation (ty : ElementType) (start : Int) (length : Nat) :
    Except Failure Sequence → Prop
  /-- The first value is none of the type, whatever the length. -/
  | startOutside (hstart : ¬ (ty.least ≤ start ∧ start ≤ ty.greatest)) :
    Generation ty start length (.error (.error (.invalidInput (.startOutside start ty))))
  /-- The values take more bytes than the greatest signed number of 64 bits. -/
  | tooLarge (hl : ty.least ≤ start) (hg : start ≤ ty.greatest)
    (hbytes : 9223372036854775807 < length * ty.bytes) :
    Generation ty start length (.error (.abort "capacity overflow"))
  /-- There is a last value, and it exceeds the greatest one. -/
  | overflow (hl : ty.least ≤ start) (hg : start ≤ ty.greatest)
    (hbytes : length * ty.bytes ≤ 9223372036854775807) (hpos : 0 < length)
    (hlast : ty.greatest < start + ((length : Int) - 1)) :
    Generation ty start length (.error (.error (.overflow ⟨ty, start.repr, length⟩)))
  /-- Otherwise there is a sequence of the type, of the length, with `start + i` at index `i`. -/
  | generated (s : Sequence) (hl : ty.least ≤ start) (hg : start ≤ ty.greatest)
    (hbytes : length * ty.bytes ≤ 9223372036854775807)
    (hlast : length = 0 ∨ start + ((length : Int) - 1) ≤ ty.greatest)
    (htype : s.elementType = ty) (hlength : s.length = length)
    (hempty : s.isEmpty = true ↔ length = 0)
    (hvalues : ∀ i < length, (s.values[i]?).map Value.toInt = some (start + i)) :
    Generation ty start length (.ok s)

/-- Every request ends in one of the four ways. -/
theorem generation_generate (ty : ElementType) (start : Int) (length : Nat) :
    Generation ty start length ((generate ty start length).mapError Refusal.toFailure) := by
  by_cases hstart : ty.least ≤ start ∧ start ≤ ty.greatest
  · obtain ⟨hl, hg⟩ := hstart
    rw [generate_of_mem hl hg]
    by_cases hbytes : 9223372036854775807 < length * ty.bytes
    · rw [ofStart_of_tooLarge _ hbytes]
      exact .tooLarge hl hg hbytes
    · have hroom := Nat.not_lt.mp hbytes
      by_cases hlast : length = 0 ∨ start + ((length : Int) - 1) ≤ ty.greatest
      · have hrun : integers ⟨ty, (⟨start, hl, hg⟩ : Value ty).run length⟩
            = (List.range length).map fun i : Nat => start + i := integers_run hlast
        have hvalues := integers_eq_iff.mp hrun
        -- the integers of the run give the length, and with it whether it is empty
        rw [ofStart_of_last_le hroom hlast]
        refine .generated _ hl hg hroom hlast rfl hvalues.1 ?_ hvalues.2
        rw [isEmpty, hvalues.1, beq_iff_eq]
      · have hover : 0 < length ∧ ty.greatest < start + ((length : Int) - 1) := by omega
        rw [ofStart_of_overflow hroom hover.1 hover.2]
        exact .overflow hl hg hroom hover.1 hover.2
  · rw [generate_of_outside hstart]
    exact .startOutside hstart

/-- No request can end in two ways. -/
theorem Generation.unique {a b : Except Failure Sequence} (ha : Generation ty start length a)
    (hb : Generation ty start length b) : a = b := by
  cases ha with
  | startOutside ha =>
    cases hb with
    | startOutside => rfl
    | tooLarge hl hg => exact absurd ⟨hl, hg⟩ ha
    | overflow hl hg => exact absurd ⟨hl, hg⟩ ha
    | generated _ hl hg => exact absurd ⟨hl, hg⟩ ha
  | tooLarge hl hg ha =>
    cases hb with
    | startOutside hb => exact absurd ⟨hl, hg⟩ hb
    | tooLarge => rfl
    | overflow _ _ hb => omega
    | generated _ _ _ hb => omega
  | overflow hl hg hbytes hpos hlast =>
    cases hb with
    | startOutside hb => exact absurd ⟨hl, hg⟩ hb
    | tooLarge _ _ hb => omega
    | overflow => rfl
    | generated _ _ _ _ hb => omega
  | generated s hl hg hbytes hlast htype hlength hempty hvalues =>
    cases hb with
    | startOutside hb => exact absurd ⟨hl, hg⟩ hb
    | tooLarge _ _ hb => omega
    | overflow _ _ _ _ hb => omega
    | generated t _ _ _ _ htype' hlength' _ hvalues' =>
      have hs := integers_eq_iff.mpr ⟨hlength, hvalues⟩
      have ht := integers_eq_iff.mpr ⟨hlength', hvalues'⟩
      rw [ext_integers (htype.trans htype'.symm) (hs.trans ht.symm)]

/-- What is generated has the type and the integers that were asked for. -/
theorem elementType_integers_of_generate {s : Sequence}
    (h : generate ty start length = .ok s) :
    s.elementType = ty ∧ s.integers = (List.range length).map fun i : Nat => start + i := by
  have hgen := generation_generate ty start length
  rw [h] at hgen
  cases hgen with
  | generated _ _ _ _ _ htype hlength _ hvalues =>
    exact ⟨htype, integers_eq_iff.mpr ⟨hlength, hvalues⟩⟩

/-- What is generated has the length that was asked for. -/
theorem length_of_generate {s : Sequence} (h : generate ty start length = .ok s) :
    s.length = length :=
  (integers_eq_iff.mp (elementType_integers_of_generate h).2).1

/-- Two requests that are met give the same sequence exactly when they ask for the same type and
    length, and from the same first value, if for any. -/
theorem generate_inj {ty' : ElementType} {start' : Int} {length' : Nat} {s t : Sequence}
    (hs : generate ty start length = .ok s) (ht : generate ty' start' length' = .ok t) :
    s = t ↔ ty = ty' ∧ length = length' ∧ (start = start' ∨ length = 0) := by
  obtain ⟨hstype, hsvalues⟩ := elementType_integers_of_generate hs
  obtain ⟨httype, htvalues⟩ := elementType_integers_of_generate ht
  have hrange := range_map_add_inj (a := start) (b := start') (m := length) (n := length')
  rw [← hsvalues, ← htvalues] at hrange
  constructor
  · intro h
    subst h
    exact ⟨hstype.symm.trans httype, hrange.mp rfl⟩
  · rintro ⟨htype, hrest⟩
    exact ext_integers (hstype.trans (htype.trans httype.symm)) (hrange.mpr hrest)

/-! ## Main result -/

/-- **The outcome of every request.** Of the four outcomes exactly the one happens whose conditions
    hold, and two requests that are met give equal sequences exactly when they agree in type and
    length and, unless they ask for nothing, in the first value. -/
theorem generate_eq_iff (ty : ElementType) (start : Int) (length : Nat) :
    (∀ outcome, (generate ty start length).mapError Refusal.toFailure = outcome ↔
        Generation ty start length outcome) ∧
      ∀ (ty' : ElementType) (start' : Int) (length' : Nat) (s t : Sequence),
        generate ty start length = .ok s → generate ty' start' length' = .ok t →
          (s = t ↔ ty = ty' ∧ length = length' ∧ (start = start' ∨ length = 0)) := by
  have hgen := generation_generate ty start length
  refine ⟨fun outcome => ⟨fun h => h ▸ hgen, fun h => hgen.unique h⟩, ?_⟩
  intro ty' start' length' s t hs ht
  exact generate_inj hs ht

/-- Two requests for nothing, from different first values, give the same; two requests for two
    values do not. -/
theorem generate_eq_iff_two :
    (generate .i8 5 0 = .ok ⟨.i8, []⟩ ∧ generate .i8 (-3) 0 = .ok ⟨.i8, []⟩ ∧
      ((⟨.i8, []⟩ : Sequence) = ⟨.i8, []⟩ ↔
        ElementType.i8 = .i8 ∧ 0 = 0 ∧ ((5 : Int) = -3 ∨ 0 = 0))) ∧
    ∃ s t, generate .i8 5 2 = .ok s ∧ generate .i8 6 2 = .ok t ∧ s.integers = [5, 6] ∧
      t.integers = [6, 7] ∧ s ≠ t := by
  refine ⟨⟨rfl, rfl, (generate_eq_iff .i8 5 0).2 .i8 (-3) 0 _ _ rfl rfl⟩,
    _, _, rfl, rfl, rfl, rfl, fun hsame => ?_⟩
  have hfirst := ((generate_eq_iff .i8 5 2).2 .i8 6 2 _ _ rfl rfl).mp hsame
  exact absurd hfirst (by decide)

end Ramp.Sequence
