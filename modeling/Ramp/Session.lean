import Ramp.Config.Override
import Ramp.Log.Event
import Ramp.Metrics.Exposition

/-!
# `Session` — what a process remembers

A process remembers where events go, which events got there, and its metrics. Events are received
from the first time on that this is asked for; asking again is an error. What a failing action has
done up to its failure stays done.

## Contents
- `Session` and `Session.tell`.
- The actions: `installLogging`, `prepare`, `run`, and those on metrics alone.
- `Session.Step`, `Session.Reply` and `Session.perform`: the actions as values;
  `Session.performAll`: what a history leaves behind; `Session.transcript`: what it answered.
-/

namespace Ramp

/-- What a process remembers. -/
structure Session where
  /-- Where events go, once that is known. -/
  receiver : Option Log.Receiver := none
  /-- The events that got through, in order. -/
  log : List Log.Entry := []
  ledger : Ledger := {}
  deriving DecidableEq, Repr

/-- What a run gives. -/
structure Output where
  /-- The sequence as it is written. -/
  body : String
  /-- The number of values in it. -/
  elements : Nat
  deriving DecidableEq, Repr

namespace Session

/-- Tells an event that occurs within a run, if one is given. -/
def tell (run : Option SequenceSettings) (event : Log.Event) (session : Session) : Session :=
  match session.receiver.bind fun receiver => receiver.receive? run event with
  | some entry => { session with log := session.log ++ [entry] }
  | none => session

/-- Tells an event if there is one. -/
def tell? (run : Option SequenceSettings) (event : Option Log.Event) (session : Session) :
    Session :=
  match event with
  | some event => session.tell run event
  | none => session

/-- Telling changes nothing but the log. -/
@[simp] theorem ledger_tell (run : Option SequenceSettings) (event : Log.Event)
    (session : Session) : (session.tell run event).ledger = session.ledger := by
  unfold tell
  split <;> rfl

@[simp] theorem receiver_tell (run : Option SequenceSettings) (event : Log.Event)
    (session : Session) : (session.tell run event).receiver = session.receiver := by
  unfold tell
  split <;> rfl

@[simp] theorem ledger_tell? (run : Option SequenceSettings) (event : Option Log.Event)
    (session : Session) : (session.tell? run event).ledger = session.ledger := by
  cases event <;> simp [tell?]

@[simp] theorem receiver_tell? (run : Option SequenceSettings) (event : Option Log.Event)
    (session : Session) : (session.tell? run event).receiver = session.receiver := by
  cases event <;> simp [tell?]

/-- An action on the metrics alone. -/
def onLedger (action : Ledger → Ledger × Except Failure Unit) (session : Session) :
    Session × Except Failure Unit :=
  let (ledger, result) := action session.ledger
  ({ session with ledger }, result)

/-- Where events go if they are received as the settings and the environment say, or the message of
    what stops the reading of that. -/
def receiverOf (environment : Environment) (settings : LoggingSettings) :
    Except String Log.Receiver :=
  Log.Receiver.ofSettings (environment Log.Filter.variableName) settings

/-- Starts to receive events, as the settings and the environment say. What they say is read first,
    also where events are being received already. -/
def installLogging (environment : Environment) (settings : LoggingSettings) (session : Session) :
    Session × Except Failure Unit :=
  match receiverOf environment settings with
  | .error message => (session, .error (.abort message))
  | .ok receiver =>
    match session.receiver with
    | some _ => (session, .error (.error (.config .loggingInstalled)))
    | none => ({ session with receiver := some receiver }, .ok ())

/-- Gets everything ready for a run: events are received, and the metrics can be used. -/
def prepare (environment : Environment) (config : Config) (session : Session) :
    Session × Except Failure Unit :=
  match session.installLogging environment config.logging with
  | (session, .error why) => (session, .error why)
  | (session, .ok ()) => (session.tell none .starting).onLedger Ledger.ensure

/-- Generates and writes the sequence that the settings ask for. It is counted when it is there,
    before it is written. -/
def run (config : Config) (session : Session) : Session × Except Failure Output :=
  let settings := config.sequence
  match session.onLedger Ledger.ensure with
  | (session, .error why) => (session, .error why)
  | (session, .ok ()) =>
    let start := settings.start.toInt
    let length := settings.length.toNat
    let session :=
      session.tell? (some settings) (Log.generationEvent? settings.elementType start length)
    match Sequence.ofSettings settings with
    | .ok sequence =>
      let session := { session with ledger := session.ledger.countRun true settings.length }
      match sequence.render config.output with
      | .error why => (session, .error why)
      | .ok body =>
        (session.tell (some settings) (.generated sequence.length), .ok ⟨body, sequence.length⟩)
    | .error .tooLarge => (session, .error Sequence.Refusal.tooLarge.toFailure)
    | .error refusal =>
      let session := { session with ledger := session.ledger.countRun false settings.length }
      (session, .error refusal.toFailure)

/-- Something that a process can be asked to do. -/
inductive Step where
  /-- Get ready for runs. -/
  | prepare (config : Config)
  /-- Start to receive events. -/
  | installLogging (settings : LoggingSettings)
  /-- Get the metrics ready for use. -/
  | prepareMetrics
  /-- Count a fill that was meant to write so many elements. -/
  | recordFill (elements : UInt64) (succeeded : Bool)
  /-- Count the duration of something. -/
  | recordTiming
  /-- Generate and write a sequence. -/
  | run (config : Config)
  /-- Register a counter of someone else. -/
  | register (name help : String)
  /-- Show the metrics. -/
  | collect
  deriving DecidableEq, Repr

/-- What a step answers that does not fail. -/
inductive Reply where
  | done
  | output (output : Output)
  | lines (lines : List String)
  deriving DecidableEq, Repr

/-- Does one step. -/
def perform (environment : Environment) (session : Session) (step : Step) :
    Session × Except Failure Reply :=
  let plain (outcome : Session × Except Failure Unit) : Session × Except Failure Reply :=
    (outcome.1, outcome.2.map fun _ => .done)
  match step with
  | .prepare config => plain (session.prepare environment config)
  | .installLogging settings => plain (session.installLogging environment settings)
  | .prepareMetrics => plain (session.onLedger Ledger.ensure)
  | .recordFill elements succeeded =>
    plain (session.onLedger (Ledger.recordFill elements succeeded))
  | .recordTiming => plain (session.onLedger Ledger.recordTiming)
  | .run config =>
    let (session, result) := session.run config
    (session, result.map .output)
  | .register name help => plain (session.onLedger (Ledger.register name help))
  | .collect => (session, .ok (.lines session.ledger.exposition))

/-- The session that some steps leave behind. -/
def performAll (environment : Environment) (session : Session) (steps : List Step) : Session :=
  steps.foldl (fun session step => (session.perform environment step).1) session

/-- A step that was done, and what it answered. -/
abbrev Record := Step × Except Failure Reply

end Session

end Ramp
