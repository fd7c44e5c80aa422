import Ramp.Proofs.Filling

/-!
# `Proofs.LastWriter` — every element of a buffer is what was last written there

A buffer is filled, wholly or in part, appended to and cut off, in any order. Positions disappear
and come back, ranges overlap, and some fillings are refused. Still the buffer at the end is told by
its history alone: where an element is written last, there it comes from. What a single step does at
a single position is said once, by `getElem?_apply`, from the promises of a filling: it is exact, it
is atomic, and it is confined to its range at the length of the time. The whole history follows by
induction from the front, where the rest of the steps runs on the buffer that the first one leaves.

## Contents
- `Step.filling?`: both ways to fill as one; `Step.InRange`, `InRange`: what a caller has to keep
  to.
- `Step.lengthAfter`, `Step.Removes`, `Step.Writes`: what a step does to the length and to a
  position; `Lasts`: a position is left alone from some time on.
- `apply_of_ok`, `apply_of_refused`: the two ways a filling of a part ends.
- `getElem?_apply`, `length_apply`: one step; `getElem?_applyAll`, `length_applyAll`: all of them.
- `IsHistory`, and `isHistory_applyAll`: every run of steps is a history of last writers.
-/

namespace Ramp.Buffer

open ElementType Value

variable {ty : ElementType}

/-! ## What steps do -/

namespace Step

/-- The first value and the range of a step that fills. Filling with indices is filling from
    zero. -/
def filling? : Step ty → Option (Value ty × Nat × Nat)
  | .fill start lo hi => some (start, lo, hi)
  | .fillIndices lo hi => some (.zero ty, lo, hi)
  | .push _ _ | .truncate _ => none

/-- Whether the range of a step, if it fills, is one of a buffer of this length. -/
def InRange (length : Nat) : Step ty → Prop
  | .fill _ lo hi | .fillIndices lo hi => lo ≤ hi ∧ hi ≤ length
  | .push _ _ | .truncate _ => True

instance decidableInRange (length : Nat) : (step : Step ty) → Decidable (step.InRange length)
  | .fill _ lo hi | .fillIndices lo hi => inferInstanceAs (Decidable (lo ≤ hi ∧ hi ≤ length))
  | .push _ _ | .truncate _ => inferInstanceAs (Decidable True)

/-- The length that a step leaves of a length. -/
def lengthAfter (length : Nat) : Step ty → Nat
  | .fill _ _ _ | .fillIndices _ _ => length
  | .push _ count => length + count
  | .truncate limit => min limit length

/-- Whether a step takes a position away. -/
def Removes (p : Nat) : Step ty → Prop
  | .truncate limit => limit ≤ p
  | .fill _ _ _ | .fillIndices _ _ | .push _ _ => False

/-- **What a step writes.** Done to the buffer `before`, the step puts the integer `n` at position
    `p`: a filling that succeeds does so within its range, counting from the start of the range, and
    an append at the positions that it makes. -/
inductive Writes (before : Buffer ty) (p : Nat) (n : Int) (step : Step ty) : Prop
  | filled {start : Value ty} {lo hi : Nat} (hfill : step.filling? = some (start, lo, hi))
    (hok : (before.apply step).1 = .ok ()) (hlo : lo ≤ p) (hhi : p < hi)
    (hn : n = start.toInt + ((p : Int) - lo))
  | pushed {value : Value ty} {count : Nat} (hpush : step = .push value count)
    (hlo : before.length ≤ p) (hhi : p < before.length + count) (hn : n = value.toInt)

end Step

/-- Whether the range of every step is one of the buffer at its time. -/
def InRange : Buffer ty → List (Step ty) → Prop
  | _, [] => True
  | buf, step :: rest => step.InRange buf.length ∧ InRange (buf.apply step).2 rest

instance decidableInRange : (buf : Buffer ty) → (steps : List (Step ty)) →
    Decidable (InRange buf steps)
  | _, [] => inferInstanceAs (Decidable True)
  | buf, step :: rest =>
    have : Decidable (InRange (buf.apply step).2 rest) := decidableInRange _ rest
    inferInstanceAs (Decidable (_ ∧ _))

/-- Whether a position is left alone: no step takes it away or writes there. -/
def Lasts (p : Nat) : Buffer ty → List (Step ty) → Prop
  | _, [] => True
  | buf, step :: rest =>
    ¬ step.Removes p ∧ (∀ n, ¬ step.Writes buf p n) ∧ Lasts p (buf.apply step).2 rest

/-! ## Filling a part -/

section Part

variable {buf middle : Buffer ty} {lo hi : Nat}

theorem length_slice (hhi : hi ≤ buf.length) : ((buf.take hi).drop lo).length = hi - lo := by
  rw [List.length_drop, List.length_take]
  omega

/-- A buffer with other elements put in the place of some. -/
theorem getElem?_splice (hlo : lo ≤ hi) (hhi : hi ≤ buf.length) (hmiddle : middle.length = hi - lo)
    (p : Nat) :
    (buf.take lo ++ middle ++ buf.drop (max lo hi))[p]? =
      if lo ≤ p ∧ p < hi then middle[p - lo]? else buf[p]? := by
  have hfront : (buf.take lo).length = lo := by
    rw [List.length_take]
    omega
  rw [Nat.max_eq_right hlo]
  by_cases hbefore : p < lo
  · rw [if_neg (by omega), List.append_assoc, List.getElem?_append_left (by omega),
      List.getElem?_take_of_lt hbefore]
  · by_cases hbehind : hi ≤ p
    · have hlength : (buf.take lo ++ middle).length = hi := by
        rw [List.length_append]
        omega
      rw [if_neg (by omega), List.getElem?_append_right (by omega), List.getElem?_drop, hlength]
      congr 1
      omega
    · rw [if_pos (by omega), List.append_assoc, List.getElem?_append_right (by omega), hfront,
        List.getElem?_append_left (by omega)]

/-- A buffer with some elements put in their own place. -/
theorem splice_self (hlo : lo ≤ hi) :
    buf.take lo ++ (buf.take hi).drop lo ++ buf.drop (max lo hi) = buf := by
  rw [Nat.max_eq_right hlo]
  have htake : buf.take lo = (buf.take hi).take lo := by
    rw [List.take_take, Nat.min_eq_left hlo]
  rw [htake, List.take_append_drop, List.take_append_drop]

variable {step : Step ty} {start : Value ty}

/-- There are two ways to fill. -/
theorem eq_of_filling? (hfill : step.filling? = some (start, lo, hi)) :
    step = .fill start lo hi ∨ start = .zero ty ∧ step = .fillIndices lo hi := by
  cases step with
  | fill start' lo' hi' =>
    cases hfill
    exact Or.inl rfl
  | fillIndices lo' hi' =>
    cases hfill
    exact Or.inr ⟨rfl, rfl⟩
  | push value count => cases hfill
  | truncate limit => cases hfill

/-- A step that fills is a filling of a part. -/
theorem apply_of_filling? (hfill : step.filling? = some (start, lo, hi)) (buf : Buffer ty) :
    buf.apply step =
      ((fill start ((buf.take hi).drop lo)).1,
        buf.take lo ++ (fill start ((buf.take hi).drop lo)).2 ++ buf.drop (max lo hi)) := by
  rcases eq_of_filling? hfill with rfl | ⟨rfl, rfl⟩ <;> rfl

/-- The range of a step that fills is in order, and within the buffer. -/
theorem le_of_inRange (hfill : step.filling? = some (start, lo, hi)) {length : Nat}
    (hrange : step.InRange length) : lo ≤ hi ∧ hi ≤ length := by
  rcases eq_of_filling? hfill with rfl | ⟨-, rfl⟩ <;> exact hrange

/-- **A filling that succeeds** writes the integers from its first value on at the positions of its
    range and leaves every other position, and the length, as they were. -/
theorem apply_of_ok (hfill : step.filling? = some (start, lo, hi))
    (hrange : step.InRange buf.length) (hok : (buf.apply step).1 = .ok ()) :
    (buf.apply step).2.length = buf.length ∧
      ∀ p : Nat, ((buf.apply step).2[p]?).map toInt =
        if lo ≤ p ∧ p < hi then some (start.toInt + ((p : Int) - lo))
        else (buf[p]?).map toInt := by
  obtain ⟨hlo, hhi⟩ := le_of_inRange hfill hrange
  have happly := apply_of_filling? hfill buf
  have hfilling := isFilling_of_fill start ((buf.take hi).drop lo)
  rw [happly] at hok
  have hmiddle : (fill start ((buf.take hi).drop lo)).2.length = hi - lo := by
    rw [hfilling.length_eq hok, length_slice hhi]
  rw [happly]
  constructor
  · simp only [List.length_append, List.length_take, List.length_drop, hmiddle]
    omega
  · intro p
    dsimp only
    rw [getElem?_splice hlo hhi hmiddle]
    by_cases hp : lo ≤ p ∧ p < hi
    · -- within the range the position counts from its start
      have hindex : p - lo < ((buf.take hi).drop lo).length := by
        rw [length_slice hhi]
        omega
      rw [if_pos hp, if_pos hp, hfilling.getElem?_eq hok (p - lo) hindex]
      congr 2
      omega
    · rw [if_neg hp, if_neg hp]

/-- **A filling that is refused** changes nothing. -/
theorem apply_of_refused (hfill : step.filling? = some (start, lo, hi)) (hlo : lo ≤ hi)
    (hrefused : (buf.apply step).1 ≠ .ok ()) : (buf.apply step).2 = buf := by
  rw [apply_of_filling? hfill] at hrefused ⊢
  dsimp only at hrefused ⊢
  obtain ⟨-, hsame⟩ := (isFilling_of_fill start ((buf.take hi).drop lo)).of_refused hrefused
  rw [hsame, splice_self hlo]

end Part

/-! ## One step -/

section Step

variable {buf : Buffer ty} {step : Step ty} {p : Nat} {n : Int}

/-- Only steps that fill can be refused. -/
theorem exists_filling?_of_refused (hrefused : (buf.apply step).1 ≠ .ok ()) :
    ∃ start lo hi, step.filling? = some (start, lo, hi) := by
  cases step with
  | fill start lo hi => exact ⟨_, _, _, rfl⟩
  | fillIndices lo hi => exact ⟨_, _, _, rfl⟩
  | push value count => exact absurd rfl hrefused
  | truncate limit => exact absurd rfl hrefused

/-- A step that is refused changes nothing. -/
theorem apply_eq_of_refused (hrange : step.InRange buf.length)
    (hrefused : (buf.apply step).1 ≠ .ok ()) : (buf.apply step).2 = buf := by
  obtain ⟨start, lo, hi, hfill⟩ := exists_filling?_of_refused hrefused
  exact apply_of_refused hfill (le_of_inRange hfill hrange).1 hrefused

/-- A step that fills keeps the length, whether it succeeds or not. -/
theorem length_apply_of_filling? {start : Value ty} {lo hi : Nat}
    (hfill : step.filling? = some (start, lo, hi)) (hrange : step.InRange buf.length) :
    (buf.apply step).2.length = buf.length := by
  by_cases hok : (buf.apply step).1 = .ok ()
  · exact (apply_of_ok hfill hrange hok).1
  · rw [apply_eq_of_refused hrange hok]

/-- **The length after a step** is told by the length before. -/
theorem length_apply (hrange : step.InRange buf.length) :
    (buf.apply step).2.length = step.lengthAfter buf.length := by
  cases step with
  | fill start lo hi => exact length_apply_of_filling? rfl hrange
  | fillIndices lo hi => exact length_apply_of_filling? rfl hrange
  | push value count =>
    show (buf ++ List.replicate count value).length = buf.length + count
    rw [List.length_append, List.length_replicate]
  | truncate limit => exact List.length_take

/-- Steps that fill take no position away. -/
theorem not_removes_of_filling? {start : Value ty} {lo hi : Nat}
    (hfill : step.filling? = some (start, lo, hi)) : ¬ step.Removes p := by
  rcases eq_of_filling? hfill with rfl | ⟨-, rfl⟩ <;> exact id

/-- A step that fills writes as a filling does. -/
theorem writes_iff_of_filling? {start : Value ty} {lo hi : Nat}
    (hfill : step.filling? = some (start, lo, hi)) :
    step.Writes buf p n ↔ (buf.apply step).1 = .ok () ∧ (lo ≤ p ∧ p < hi) ∧
      n = start.toInt + ((p : Int) - lo) := by
  constructor
  · intro hwrites
    cases hwrites with
    | filled hfill' hok hlo hhi hn =>
      cases hfill.symm.trans hfill'
      exact ⟨hok, ⟨hlo, hhi⟩, hn⟩
    | pushed hpush =>
      rw [hpush] at hfill
      cases hfill
  · rintro ⟨hok, ⟨hlo, hhi⟩, hn⟩
    exact .filled hfill hok hlo hhi hn

/-- An append writes its value at the positions that it makes. -/
theorem writes_push_iff {value : Value ty} {count : Nat} :
    (Step.push value count).Writes buf p n ↔
      (buf.length ≤ p ∧ p < buf.length + count) ∧ n = value.toInt := by
  constructor
  · intro hwrites
    cases hwrites with
    | filled hfill => cases hfill
    | pushed hpush hlo hhi hn =>
      cases hpush
      exact ⟨⟨hlo, hhi⟩, hn⟩
  · rintro ⟨⟨hlo, hhi⟩, hn⟩
    exact .pushed rfl hlo hhi hn

/-- Cutting off writes nothing. -/
theorem not_writes_truncate {limit : Nat} : ¬ (Step.truncate limit).Writes buf p n := by
  intro hwrites
  cases hwrites with
  | filled hfill => cases hfill
  | pushed hpush => cases hpush

/-- What stands at a position after a step that fills. -/
theorem getElem?_apply_of_filling? {start : Value ty} {lo hi : Nat}
    (hfill : step.filling? = some (start, lo, hi)) (hrange : step.InRange buf.length) :
    ((buf.apply step).2[p]?).map toInt = some n ↔
      step.Writes buf p n ∨
        (buf[p]?).map toInt = some n ∧ ¬ step.Removes p ∧ ∀ m, ¬ step.Writes buf p m := by
  simp only [writes_iff_of_filling? hfill, not_removes_of_filling? hfill, not_false_eq_true,
    true_and]
  by_cases hok : (buf.apply step).1 = .ok ()
  · rw [(apply_of_ok hfill hrange hok).2 p]
    by_cases hp : lo ≤ p ∧ p < hi
    · simp [hok, hp, eq_comm]
    · simp [hp]
  · rw [apply_eq_of_refused hrange hok]
    simp [hok]

/-- **What stands at a position after a step**: what the step writes there, or else what stood there
    before, unless the step takes the position away. -/
theorem getElem?_apply (hrange : step.InRange buf.length) :
    ((buf.apply step).2[p]?).map toInt = some n ↔
      step.Writes buf p n ∨
        (buf[p]?).map toInt = some n ∧ ¬ step.Removes p ∧ ∀ m, ¬ step.Writes buf p m := by
  cases step with
  | fill start lo hi => exact getElem?_apply_of_filling? rfl hrange
  | fillIndices lo hi => exact getElem?_apply_of_filling? rfl hrange
  | push value count =>
    show ((buf ++ List.replicate count value)[p]?).map toInt = some n ↔ _
    simp only [writes_push_iff, Step.Removes, not_false_eq_true, true_and]
    by_cases hold : p < buf.length
    · rw [List.getElem?_append_left hold]
      have hnew : ¬ buf.length ≤ p := by omega
      simp [hnew]
    · rw [List.getElem?_append_right (by omega), List.getElem?_replicate,
        List.getElem?_eq_none (by omega)]
      by_cases hnew : p < buf.length + count
      · have hindex : p - buf.length < count := by omega
        have hfirst : buf.length ≤ p := by omega
        simp [hindex, hnew, hfirst, eq_comm]
      · have hindex : ¬ p - buf.length < count := by omega
        simp [hindex, hnew]
  | truncate limit =>
    show ((buf.take limit)[p]?).map toInt = some n ↔ _
    simp only [not_writes_truncate, Step.Removes, false_or, not_false_eq_true, implies_true,
      and_true]
    by_cases hkept : p < limit
    · rw [List.getElem?_take_of_lt hkept]
      simp [hkept]
    · rw [List.getElem?_take_eq_none (by omega)]
      simp [hkept]

end Step

/-! ## All steps -/

section Steps

variable {buf : Buffer ty} {step : Step ty} {steps : List (Step ty)} {p : Nat} {n : Int}

theorem applyAll_cons (buf : Buffer ty) (step : Step ty) (rest : List (Step ty)) :
    buf.applyAll (step :: rest) = (buf.apply step).2.applyAll rest := rfl

theorem applyAll_append (buf : Buffer ty) (first rest : List (Step ty)) :
    buf.applyAll (first ++ rest) = (buf.applyAll first).applyAll rest :=
  List.foldl_append

/-- Every step is in range at its time. -/
theorem inRange_append {first rest : List (Step ty)} :
    InRange buf (first ++ rest) ↔ InRange buf first ∧ InRange (buf.applyAll first) rest := by
  induction first generalizing buf with
  | nil => simp [InRange, applyAll]
  | cons step others ih => simp only [List.cons_append, InRange, ih, applyAll_cons, and_assoc]

/-- A step among others is in range of what the steps before it leave. -/
theorem inRange_of_split {first rest : List (Step ty)} (hrange : InRange buf steps)
    (hsplit : steps = first ++ step :: rest) : step.InRange (buf.applyAll first).length := by
  rw [hsplit, inRange_append] at hrange
  exact hrange.2.1

/-- **The length at the end** is told by the appends and the cuts. -/
theorem length_applyAll (hrange : InRange buf steps) :
    (buf.applyAll steps).length =
      (steps.filter fun step => step.filling?.isNone).foldl
        (fun length step => step.lengthAfter length) buf.length := by
  induction steps generalizing buf with
  | nil => rfl
  | cons step rest ih =>
    rw [applyAll_cons, ih hrange.2, length_apply hrange.1]
    cases step <;> rfl

/-- **The last writer**: of all steps, the last one that writes at a position after which nobody
    writes there or takes it away. -/
def LastWrites (buf : Buffer ty) (steps : List (Step ty)) (p : Nat) (n : Int) : Prop :=
  ∃ before step after, steps = before ++ step :: after ∧ step.Writes (buf.applyAll before) p n ∧
    Lasts p (buf.applyAll (before ++ [step])) after

/-- The last writer is the first step, and nobody comes after it, or it is the last writer of the
    rest. -/
theorem lastWrites_cons_iff {rest : List (Step ty)} :
    LastWrites buf (step :: rest) p n ↔
      step.Writes buf p n ∧ Lasts p (buf.apply step).2 rest ∨
        LastWrites (buf.apply step).2 rest p n := by
  constructor
  · rintro ⟨before, writer, after, hsplit, hwrites, hlasts⟩
    cases before with
    | nil =>
      cases hsplit
      exact Or.inl ⟨hwrites, hlasts⟩
    | cons first before =>
      cases hsplit
      exact Or.inr ⟨before, writer, after, rfl, hwrites, hlasts⟩
  · rintro (⟨hwrites, hlasts⟩ | ⟨before, writer, after, rfl, hwrites, hlasts⟩)
    · exact ⟨[], step, rest, rfl, hwrites, hlasts⟩
    · exact ⟨step :: before, writer, after, rfl, hwrites, hlasts⟩

/-- **What stands at a position at the end**: what the last writer wrote there, or else what stood
    there at first. -/
theorem getElem?_applyAll (hrange : InRange buf steps) :
    ((buf.applyAll steps)[p]?).map toInt = some n ↔
      LastWrites buf steps p n ∨ (buf[p]?).map toInt = some n ∧ Lasts p buf steps := by
  induction steps generalizing buf with
  | nil =>
    constructor
    · intro h
      exact Or.inr ⟨h, trivial⟩
    · rintro (⟨before, step, after, hsplit, -⟩ | ⟨h, -⟩)
      · simp at hsplit
      · exact h
  | cons step rest ih =>
    rw [applyAll_cons, ih hrange.2, getElem?_apply hrange.1, lastWrites_cons_iff]
    constructor
    · rintro (hlater | ⟨hwrites | ⟨hold, hkept, hfree⟩, hlasts⟩)
      · exact Or.inl (Or.inr hlater)
      · exact Or.inl (Or.inl ⟨hwrites, hlasts⟩)
      · exact Or.inr ⟨hold, hkept, hfree, hlasts⟩
    · rintro ((⟨hwrites, hlasts⟩ | hlater) | ⟨hold, hkept, hfree, hlasts⟩)
      · exact Or.inr ⟨Or.inl hwrites, hlasts⟩
      · exact Or.inl hlater
      · exact Or.inr ⟨Or.inr ⟨hold, hkept, hfree⟩, hlasts⟩

end Steps

/-! ## Main result -/

/-- **A history of last writers.** The steps, done to the buffer `before`, leave the buffer
    `after`. -/
structure IsHistory (before : Buffer ty) (steps : List (Step ty)) (after : Buffer ty) : Prop where
  /-- The length is told by the appends and the cuts. -/
  length_eq : after.length =
    (steps.filter fun step => step.filling?.isNone).foldl
      (fun length step => step.lengthAfter length) before.length
  /-- An element is what the last writer wrote, or else the initial one. -/
  getElem?_eq_some_iff : ∀ p n, (after[p]?).map toInt = some n ↔
    LastWrites before steps p n ∨ (before[p]?).map toInt = some n ∧ Lasts p before steps
  /-- A step that is refused is a filling and leaves no trace: nothing has changed when it is over,
      and the end is the same without it. -/
  of_refused : ∀ first step rest, steps = first ++ step :: rest →
    ((before.applyAll first).apply step).1 ≠ .ok () →
    step.filling?.isSome ∧ before.applyAll (first ++ [step]) = before.applyAll first ∧
      before.applyAll (first ++ rest) = after
  /-- A filling keeps the length and every position outside its range. -/
  of_filling : ∀ first step rest, steps = first ++ step :: rest →
    ∀ start lo hi, step.filling? = some (start, lo, hi) →
      (before.applyAll (first ++ [step])).length = (before.applyAll first).length ∧
      ∀ p : Nat, ¬ (lo ≤ p ∧ p < hi) →
        (before.applyAll (first ++ [step]))[p]? = (before.applyAll first)[p]?

/-- **Every run of steps is a history of last writers**, for every type, every buffer and all steps
    whose ranges are within the buffer when they come. -/
theorem isHistory_applyAll {buf : Buffer ty} {steps : List (Step ty)} (hrange : InRange buf steps) :
    IsHistory buf steps (buf.applyAll steps) where
  length_eq := length_applyAll hrange
  getElem?_eq_some_iff p n := getElem?_applyAll hrange
  of_refused first step rest hsplit hrefused := by
    have hsame := apply_eq_of_refused (inRange_of_split hrange hsplit) hrefused
    obtain ⟨start, lo, hi, hfill⟩ := exists_filling?_of_refused hrefused
    refine ⟨by rw [hfill, Option.isSome_some], ?_, ?_⟩
    · rw [applyAll_append]
      exact hsame
    · rw [hsplit, applyAll_append, applyAll_append, applyAll_cons, hsame]
  of_filling first step rest hsplit start lo hi hfill := by
    have hstep := inRange_of_split hrange hsplit
    rw [applyAll_append]
    show ((buf.applyAll first).apply step).2.length = (buf.applyAll first).length ∧
      ∀ p : Nat, ¬ (lo ≤ p ∧ p < hi) →
        ((buf.applyAll first).apply step).2[p]? = (buf.applyAll first)[p]?
    refine ⟨length_apply_of_filling? hfill hstep, fun p hp => ?_⟩
    by_cases hok : ((buf.applyAll first).apply step).1 = .ok ()
    · have hinj : ∀ v w : Value ty, v.toInt = w.toInt → v = w := fun v w h => Value.ext h
      have hvalue := (apply_of_ok hfill hstep hok).2 p
      rw [if_neg hp] at hvalue
      exact Option.map_injective hinj hvalue
    · rw [apply_eq_of_refused hstep hok]

/-- Overlapping fillings of bytes, one of which is refused, and a position that is taken away and
    comes back. -/
def someSteps : List (Step .u8) :=
  [.fillIndices 0 2, .push ⟨7, by decide, by decide⟩ 2, .fill ⟨250, by decide, by decide⟩ 1 4,
    .fill ⟨253, by decide, by decide⟩ 0 4, .truncate 2, .push ⟨5, by decide, by decide⟩ 1]

/-- Position 0 is last written by the first filling, position 1 by the second one, and position 2,
    which came back, by the append; what is refused counts for nothing. -/
theorem isHistory_applyAll_someSteps :
    let buf : Buffer .u8 := List.replicate 2 ⟨9, by decide, by decide⟩
    InRange buf someSteps ∧ (buf.applyAll someSteps).map toInt = [0, 250, 5] ∧
      LastWrites buf someSteps 0 0 ∧ LastWrites buf someSteps 1 250 ∧
      LastWrites buf someSteps 2 5 := by
  intro buf
  have hrange : InRange buf someSteps := by decide
  have hhistory := isHistory_applyAll hrange
  have hwrites : ∀ p n, ((buf.applyAll someSteps)[p]?).map toInt = some n →
      (buf[p]?).map toInt ≠ some n → LastWrites buf someSteps p n := by
    intro p n hend hfirst
    rcases (hhistory.getElem?_eq_some_iff p n).mp hend with hwrites | ⟨hsame, -⟩
    · exact hwrites
    · exact absurd hsame hfirst
  exact ⟨hrange, by decide, hwrites 0 0 (by decide) (by decide),
    hwrites 1 250 (by decide) (by decide), hwrites 2 5 (by decide) (by decide)⟩

end Ramp.Buffer
