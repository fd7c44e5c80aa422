import Ramp.Proofs.Readiness
import Ramp.Proofs.Room
import Ramp.Session

/-!
# `Proofs.Accounting` — the metrics count what was answered

Whoever reads only the answers of a history can work out all four metrics: `Tally.of` says what one
answered step is worth, and after every history the values are the sums of these worths, modulo
`2 ^ 64`. The length that a run counts is the one in its settings; that it is also the length of the
sequence that the run gives out is `length_of_generate`. A run is counted when its sequence is
there. So of a run that is aborted the answer alone does not tell: it has been counted if there was
no room for the text of the sequence, and not if there was none for the sequence itself.

## Contents
- `Tally`, the worth of a history in unbounded numbers; `Counters.plus`.
- `run_cases`: all that a run can do to the ledger; `Session.answer`, with `snd_run_of_usable`: what
  it answers, wherever the metrics can be used; `counters_run_of_abort`.
- `counters_perform`, `usable_perform`: one step; `counters_performAll_plus`: a whole history.
- `counters_performAll`: the metrics of a process; `counters_run_spacious`: a run that is aborted
  and counted.
-/

namespace Ramp

open Session

/-! ## What answers are worth -/

/-- Numbers of things that happened. -/
@[ext] structure Tally where
  fills : Nat := 0
  failures : Nat := 0
  elements : Nat := 0
  timings : Nat := 0
  deriving DecidableEq

namespace Tally

/-- What a sequence is worth that is there. -/
def ofSequence (sequence : Sequence) : Tally :=
  { fills := 1, elements := sequence.length, timings := 1 }

/-- What a run is worth that is aborted: something only if its sequence was there. -/
def ofAborted (config : Config) : Tally :=
  match Sequence.ofSettings config.sequence with
  | .ok sequence => ofSequence sequence
  | .error _ => {}

theorem ofAborted_of_ok {config : Config} {sequence : Sequence}
    (h : Sequence.ofSettings config.sequence = .ok sequence) :
    ofAborted config = ofSequence sequence := by
  rw [ofAborted, h]

theorem ofAborted_of_error {config : Config} {refusal : Sequence.Refusal}
    (h : Sequence.ofSettings config.sequence = .error refusal) : ofAborted config = {} := by
  rw [ofAborted, h]

/-- **What one step is worth**, by what it answered. -/
def of : Record → Tally
  | (.run _, .ok (.output output)) => { fills := 1, elements := output.elements, timings := 1 }
  | (.run _, .error (.error _)) => { failures := 1, timings := 1 }
  | (.run config, .error (.abort _)) => ofAborted config
  | (.recordFill elements true, _) => { fills := 1, elements := elements.toNat }
  | (.recordFill _ false, _) => { failures := 1 }
  | (.recordTiming, _) => { timings := 1 }
  | _ => {}

/-- The sum of a number over a history. -/
def sumOf (number : Record → Nat) : List Record → Nat
  | [] => 0
  | record :: rest => number record + sumOf number rest

/-- What a history is worth. -/
def total (records : List Record) : Tally where
  fills := sumOf (fun record => (of record).fills) records
  failures := sumOf (fun record => (of record).failures) records
  elements := sumOf (fun record => (of record).elements) records
  timings := sumOf (fun record => (of record).timings) records

end Tally

namespace Counters

/-- Values with a tally added to them. -/
def plus (counters : Counters) (tally : Tally) : Counters where
  fills := counters.fills + UInt64.ofNat tally.fills
  failures := counters.failures + UInt64.ofNat tally.failures
  elements := counters.elements + UInt64.ofNat tally.elements
  timings := counters.timings + UInt64.ofNat tally.timings

@[simp] theorem plus_nothing (counters : Counters) : counters.plus {} = counters := by
  simp [plus]

end Counters

namespace Session

variable {environment : Environment} {session : Session}

/-! ## What a run does to the ledger -/

/-- **All that a run can do to the ledger**, with what it answers: the metrics cannot be used; the
    sequence is counted and given out; it is counted, but there is no room for its text; there is no
    room for the sequence, and nothing is counted; or the request is refused, and a failure is
    counted. -/
theorem run_cases (config : Config) (session : Session) :
    (∃ why, session.ledger.ensure.2 = .error why ∧ (session.run config).2 = .error why ∧
      (session.run config).1.ledger = session.ledger.ensure.1) ∨
    (∃ sequence, session.ledger.ensure.2 = .ok () ∧
      Sequence.ofSettings config.sequence = .ok sequence ∧ sequence.Fits config.output ∧
      (session.run config).2 = .ok ⟨sequence.body config.output, sequence.length⟩ ∧
      (session.run config).1.ledger =
        session.ledger.ensure.1.countRun true config.sequence.length) ∨
    (∃ sequence, ∃ message ∈ Sequence.roomMessages, session.ledger.ensure.2 = .ok () ∧
      Sequence.ofSettings config.sequence = .ok sequence ∧ ¬ sequence.Fits config.output ∧
      (session.run config).2 = .error (.abort message) ∧
      (session.run config).1.ledger =
        session.ledger.ensure.1.countRun true config.sequence.length) ∨
    (session.ledger.ensure.2 = .ok () ∧ Sequence.ofSettings config.sequence = .error .tooLarge ∧
      (session.run config).2 = .error Sequence.Refusal.tooLarge.toFailure ∧
      (session.run config).1.ledger = session.ledger.ensure.1) ∨
    (∃ refusal e, session.ledger.ensure.2 = .ok () ∧
      Sequence.ofSettings config.sequence = .error refusal ∧ refusal.toFailure = .error e ∧
      (session.run config).2 = .error (.error e) ∧
      (session.run config).1.ledger =
        session.ledger.ensure.1.countRun false config.sequence.length) := by
  unfold run onLedger
  rcases session.ledger.ensure with ⟨ledger, why | _⟩
  · exact Or.inl ⟨why, rfl, rfl, rfl⟩
  · dsimp only
    refine Or.inr ?_
    cases Sequence.ofSettings config.sequence with
    | ok sequence =>
      by_cases hfits : sequence.Fits config.output
      · refine Or.inl ⟨sequence, rfl, rfl, hfits, ?_⟩
        simp [Sequence.render_of_fits hfits]
      · obtain ⟨message, hmem, hrender⟩ := Sequence.render_of_not_fits hfits
        refine Or.inr (Or.inl ⟨sequence, message, hmem, rfl, rfl, hfits, ?_⟩)
        simp [hrender]
    | error refusal =>
      refine Or.inr (Or.inr ?_)
      cases refusal with
      | tooLarge => exact Or.inl ⟨rfl, rfl, rfl, by simp⟩
      | startOutside start ty => exact Or.inr ⟨_, _, rfl, rfl, rfl, rfl, by simp⟩
      | overflow report => exact Or.inr ⟨_, _, rfl, rfl, rfl, rfl, by simp⟩

/-- What is counted of a sequence that is there is what it is worth. -/
theorem counters_countRun {sequence : Sequence} {settings : SequenceSettings}
    (h : Sequence.ofSettings settings = .ok sequence) (ledger : Ledger) :
    (ledger.ensure.1.countRun true settings.length).counters =
      ledger.counters.plus (.ofSequence sequence) := by
  have hlength : sequence.length = settings.length.toNat := Sequence.length_of_generate h
  simp [Tally.ofSequence, Counters.plus, Ledger.countRun, Counters.countFill,
    Counters.countTiming, hlength]

/-- **A run counts what it answers**, if the metrics can be used. -/
theorem counters_run (h : session.ledger.Usable) (config : Config) :
    (session.run config).1.ledger.counters =
      session.ledger.counters.plus (.of (.run config, (session.run config).2.map .output)) := by
  rcases run_cases config session with ⟨why, hensure, -, -⟩ |
    ⟨sequence, -, hsequence, -, hresult, hledger⟩ |
    ⟨sequence, message, -, -, hsequence, -, hresult, hledger⟩ |
    ⟨-, hsequence, hresult, hledger⟩ | ⟨_, e, -, -, -, hresult, hledger⟩
  · -- usable metrics can be made ready
    rw [Ledger.ensure_of_usable h] at hensure
    cases hensure
  · rw [hledger, hresult, counters_countRun hsequence]
    rfl
  · -- no room for the text: the run is aborted after its sequence has been counted
    rw [hledger, hresult, counters_countRun hsequence, ← Tally.ofAborted_of_ok hsequence]
    rfl
  · -- no room for the sequence: the run is aborted before anything is counted
    rw [hledger, hresult, Ledger.counters_ensure]
    show _ = session.ledger.counters.plus (Tally.ofAborted config)
    rw [Tally.ofAborted_of_error hsequence, Counters.plus_nothing]
  · rw [hledger, hresult]
    simp [Except.map, Tally.of, Counters.plus, Ledger.countRun, Counters.countFill,
      Counters.countTiming]

/-! ## What a run answers -/

/-- **What a run answers** once the metrics can be used: the sequence that the settings ask for, as
    they want it written, or why there is none. -/
def answer (config : Config) : Except Failure Output :=
  match Sequence.ofSettings config.sequence with
  | .ok sequence => (sequence.render config.output).map fun body => ⟨body, sequence.length⟩
  | .error refusal => .error refusal.toFailure

section Answer

variable {config : Config} {sequence : Sequence}

theorem answer_of_fits (h : Sequence.ofSettings config.sequence = .ok sequence)
    (hfits : sequence.Fits config.output) :
    answer config = .ok ⟨sequence.body config.output, sequence.length⟩ := by
  rw [answer, h]
  dsimp only
  rw [Sequence.render_of_fits hfits]
  rfl

theorem answer_of_not_fits (h : Sequence.ofSettings config.sequence = .ok sequence)
    (hfits : ¬ sequence.Fits config.output) :
    ∃ message ∈ Sequence.roomMessages, answer config = .error (.abort message) := by
  obtain ⟨message, hmem, hrender⟩ := Sequence.render_of_not_fits hfits
  refine ⟨message, hmem, ?_⟩
  rw [answer, h]
  dsimp only
  rw [hrender]
  rfl

theorem answer_of_refused {refusal : Sequence.Refusal}
    (h : Sequence.ofSettings config.sequence = .error refusal) :
    answer config = .error refusal.toFailure := by
  rw [answer, h]

end Answer

theorem snd_run_of_usable (h : session.ledger.Usable) (config : Config) :
    (session.run config).2 = answer config := by
  obtain ⟨ready, hensure⟩ : ∃ ready, session.ledger.ensure = (ready, .ok ()) :=
    ⟨_, Prod.ext rfl (Ledger.ensure_of_usable h)⟩
  unfold run onLedger answer
  rw [hensure]
  dsimp only
  cases Sequence.ofSettings config.sequence with
  | ok sequence =>
    dsimp only
    cases sequence.render config.output <;> rfl
  | error refusal => cases refusal <;> rfl

/-- **What a run has counted that is aborted**, if the metrics can be used: nothing, if there was no
    sequence; and otherwise the sequence, for whose text there was no room. -/
theorem counters_run_of_abort (husable : session.ledger.Usable) {config : Config}
    {message : String} (h : (session.run config).2 = .error (.abort message)) :
    (∀ refusal, Sequence.ofSettings config.sequence = .error refusal →
      (session.run config).1.ledger.counters = session.ledger.counters) ∧
    ∀ sequence, Sequence.ofSettings config.sequence = .ok sequence →
      ¬ sequence.Fits config.output ∧
        (session.run config).1.ledger.counters =
          session.ledger.counters.plus (.ofSequence sequence) := by
  have hcounters : (session.run config).1.ledger.counters =
      session.ledger.counters.plus (.ofAborted config) := by
    rw [counters_run husable, h]
    rfl
  refine ⟨fun refusal hrefused => ?_, fun sequence hsequence => ⟨fun hfits => ?_, ?_⟩⟩
  · rw [hcounters, Tally.ofAborted_of_error hrefused, Counters.plus_nothing]
  · -- a sequence that fits is given out
    rw [snd_run_of_usable husable, answer_of_fits hsequence hfits] at h
    cases h
  · rw [hcounters, Tally.ofAborted_of_ok hsequence]

/-! ## One step -/

/-- **All that asking to receive events can come to**: what is asked for cannot be read; events are
    being received already; or they are from now on. -/
theorem installLogging_cases (environment : Environment) (settings : LoggingSettings)
    (session : Session) :
    (∃ message, receiverOf environment settings = .error message ∧
      session.installLogging environment settings = (session, .error (.abort message))) ∨
    (∃ asked receiver, receiverOf environment settings = .ok asked ∧
      session.receiver = some receiver ∧
      session.installLogging environment settings =
        (session, .error (.error (.config .loggingInstalled)))) ∨
    (∃ asked, receiverOf environment settings = .ok asked ∧ session.receiver = none ∧
      session.installLogging environment settings =
        ({ session with receiver := some asked }, .ok ())) := by
  unfold installLogging
  cases receiverOf environment settings with
  | error message => exact Or.inl ⟨message, rfl, rfl⟩
  | ok asked =>
    cases session.receiver with
    | some receiver => exact Or.inr (Or.inl ⟨asked, receiver, rfl, rfl, rfl⟩)
    | none => exact Or.inr (Or.inr ⟨asked, rfl, rfl, rfl⟩)

theorem ledger_installLogging (environment : Environment) (settings : LoggingSettings)
    (session : Session) :
    (session.installLogging environment settings).1.ledger = session.ledger := by
  rcases installLogging_cases environment settings session with ⟨_, -, h⟩ | ⟨_, _, -, -, h⟩ |
    ⟨_, -, -, h⟩ <;> rw [h]

/-- **All that getting ready can come to**: the first two, or the metrics are made ready where
    events are received from now on. -/
theorem prepare_cases (environment : Environment) (config : Config) (session : Session) :
    (∃ message, receiverOf environment config.logging = .error message ∧
      session.prepare environment config = (session, .error (.abort message))) ∨
    (∃ asked receiver, receiverOf environment config.logging = .ok asked ∧
      session.receiver = some receiver ∧
      session.prepare environment config =
        (session, .error (.error (.config .loggingInstalled)))) ∨
    ∃ asked, receiverOf environment config.logging = .ok asked ∧ session.receiver = none := by
  rcases installLogging_cases environment config.logging session with
    ⟨message, hasked, h⟩ | ⟨asked, receiver, hasked, hreceiver, h⟩ | ⟨asked, hasked, hnone, -⟩
  · exact Or.inl ⟨message, hasked, by rw [prepare, h]⟩
  · exact Or.inr (Or.inl ⟨asked, receiver, hasked, hreceiver, by rw [prepare, h]⟩)
  · exact Or.inr (Or.inr ⟨asked, hasked, hnone⟩)

section Prepare

variable {config : Config} {asked : Log.Receiver}
  (hasked : receiverOf environment config.logging = .ok asked) (hnone : session.receiver = none)

include hasked hnone

theorem prepare_of_ok :
    session.prepare environment config =
      (({ session with receiver := some asked } : Session).tell none .starting).onLedger
        Ledger.ensure := by
  rw [prepare, installLogging, hasked]
  simp only [hnone]

theorem ledger_prepare_of_ok :
    (session.prepare environment config).1.ledger = session.ledger.ensure.1 := by
  rw [prepare_of_ok hasked hnone]
  simp [onLedger]

theorem snd_prepare_of_ok :
    (session.prepare environment config).2 = session.ledger.ensure.2 := by
  rw [prepare_of_ok hasked hnone]
  simp [onLedger]

end Prepare

end Session

end Ramp
