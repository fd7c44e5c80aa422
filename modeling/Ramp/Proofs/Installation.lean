import Ramp.Proofs.Cutting
import Ramp.Proofs.Registration

/-!
# `Proofs.Installation` — who decides where events go, after every history

Getting ready for runs is two things in a row, to receive events and to make the metrics ready, and
neither is undone if the other one fails. The first half happens once in a process: the first step
that asks for it decides where events go, whatever becomes of that step, and every later one is an
error that changes nothing. One equation says what a step does to the receiver (`receiver_perform`),
and with it what a history does. The second half can fail for good, and then the process is left
halfway: later preparations stop at the first half, while whatever goes straight to the metrics is
aborted.

Where events are to go has to be read, and the reading may be stopped. A request with which that
happens is aborted, be it the first one or a later one. It changes nothing, and it does not count as
a request.

## Contents
- `Step.logging?`, `Step.receiver?`: what a step asks for; `receiver_performAll`: what a history
  does.
- `perform_of_unreadable`: requests that are aborted; `perform_of_installed`: every request after
  the first; `perform_installLogging`, `perform_prepare`: the first one.
- `Halfway`: events are received and the metrics are lost; `spoilt_performAll`: for good.
- `installation_performAll`: all of it, after every history of a process;
  `perform_unreadableVariables`: a first request that is aborted.
-/

namespace Ramp.Session

variable {environment : Environment} {session : Session} {step : Step}
  {settings : LoggingSettings} {config : Config} {asked receiver : Log.Receiver}

/-- The settings with which a step asks to receive events, if it does. -/
def Step.logging? : Step → Option LoggingSettings
  | .prepare config => some config.logging
  | .installLogging settings => some settings
  | .prepareMetrics | .recordFill _ _ | .recordTiming | .run _ | .register _ _ | .collect => none

/-- The receiver that a step asks for, if it asks for one and that can be read. -/
def Step.receiver? (environment : Environment) (step : Step) : Option Log.Receiver :=
  step.logging?.bind fun settings => (receiverOf environment settings).toOption

theorem Step.receiver?_eq_some_iff :
    step.receiver? environment = some asked ↔
      ∃ settings, step.logging? = some settings ∧ receiverOf environment settings = .ok asked := by
  rw [receiver?, Option.bind_eq_some_iff]
  refine exists_congr fun settings => and_congr_right fun _ => ?_
  exact ⟨Except.eq_ok_of_toOption, fun h => by rw [h]; rfl⟩

/-! ## The receiver -/

/-- Events are received once that is asked for, and otherwise as before. -/
theorem receiver_installLogging (environment : Environment) (settings : LoggingSettings)
    (session : Session) :
    (session.installLogging environment settings).1.receiver =
      session.receiver.or (receiverOf environment settings).toOption := by
  rcases installLogging_cases environment settings session with ⟨message, hasked, h⟩ |
    ⟨asked, receiver, hasked, hreceiver, h⟩ | ⟨asked, hasked, hnone, h⟩
  · rw [h, hasked]
    exact Option.or_none.symm
  · rw [h, hreceiver]
    rfl
  · rw [h, hasked, hnone]
    rfl

/-- Getting ready decides no more on the receiver than its first half does. -/
theorem receiver_prepare (environment : Environment) (config : Config) (session : Session) :
    (session.prepare environment config).1.receiver =
      (session.installLogging environment config.logging).1.receiver := by
  unfold prepare
  rcases session.installLogging environment config.logging with ⟨installed, why | _⟩
  · rfl
  · exact receiver_tell none .starting installed

/-- A run leaves the receiver alone. -/
theorem receiver_run (config : Config) (session : Session) :
    (session.run config).1.receiver = session.receiver := by
  unfold run onLedger
  rcases session.ledger.ensure with ⟨ledger, why | _⟩
  · rfl
  · dsimp only
    cases Sequence.ofSettings config.sequence with
    | ok sequence =>
      dsimp only
      cases sequence.render config.output <;> simp
    | error refusal => cases refusal <;> simp

/-- **What a step does to the receiver**: if there is none yet, it is the one that the step asks
    for. -/
theorem receiver_perform (environment : Environment) (session : Session) (step : Step) :
    (session.perform environment step).1.receiver =
      session.receiver.or (step.receiver? environment) := by
  have hnone : session.receiver = session.receiver.or none := Option.or_none.symm
  cases step with
  | prepare config =>
    exact (receiver_prepare environment config session).trans
      (receiver_installLogging environment config.logging session)
  | installLogging settings => exact receiver_installLogging environment settings session
  | run config => exact (receiver_run config session).trans hnone
  | prepareMetrics => exact hnone
  | recordFill elements succeeded => exact hnone
  | recordTiming => exact hnone
  | register name help => exact hnone
  | collect => exact hnone

/-- **What a history does to the receiver**: if there is none yet, it is the one that the first step
    asks for that asks for any. -/
theorem receiver_performAll (environment : Environment) (session : Session) (steps : List Step) :
    (performAll environment session steps).receiver =
      session.receiver.or (steps.findSome? (Step.receiver? environment)) := by
  induction steps generalizing session with
  | nil => exact Option.or_none.symm
  | cons step rest ih =>
    show (performAll environment (session.perform environment step).1 rest).receiver = _
    rw [ih, receiver_perform, Option.or_assoc, List.findSome?_cons]
    cases step.receiver? environment with
    | none => rw [Option.none_or]
    | some asked => rw [Option.some_or]

/-! ## Requests to receive events -/

/-- What a request gives that stops at the first half. -/
theorem perform_of_installLogging {why : Failure} (hstep : step.logging? = some settings)
    (h : session.installLogging environment settings = (session, .error why)) :
    session.perform environment step = (session, .error why) := by
  cases step with
  | prepare config =>
    cases hstep
    simp only [perform, prepare, h]
    rfl
  | installLogging settings =>
    cases hstep
    simp only [perform, h]
    rfl
  | prepareMetrics => cases hstep
  | recordFill elements succeeded => cases hstep
  | recordTiming => cases hstep
  | run config => cases hstep
  | register name help => cases hstep
  | collect => cases hstep

/-- **A request that cannot be read is aborted and changes nothing**, whenever it comes. -/
theorem perform_of_unreadable {message : String} (hstep : step.logging? = some settings)
    (hasked : receiverOf environment settings = .error message) :
    session.perform environment step = (session, .error (.abort message)) :=
  perform_of_installLogging hstep (by rw [installLogging, hasked])

/-- **Every other request after the first is an error and changes nothing.** -/
theorem perform_of_installed (hstep : step.logging? = some settings)
    (hasked : receiverOf environment settings = .ok asked) (h : session.receiver = some receiver) :
    session.perform environment step =
      (session, .error (.error (.config .loggingInstalled))) := by
  refine perform_of_installLogging hstep ?_
  rw [installLogging, hasked]
  simp only [h]

/-- The first request alone decides where events go, and nothing else changes. -/
theorem perform_installLogging (hasked : receiverOf environment settings = .ok asked)
    (h : session.receiver = none) :
    session.perform environment (.installLogging settings) =
      ({ session with receiver := some asked }, .ok .done) := by
  simp only [perform, installLogging, hasked, h]
  rfl

/-- As part of getting ready, the first request leaves the rest to the metrics. -/
theorem perform_prepare (hasked : receiverOf environment config.logging = .ok asked)
    (h : session.receiver = none) :
    (session.perform environment (.prepare config)).1.ledger = session.ledger.ensure.1 ∧
      (session.perform environment (.prepare config)).2 =
        session.ledger.ensure.2.map fun _ => .done :=
  ⟨ledger_prepare_of_ok hasked h,
    congrArg (Except.map fun _ : Unit => Reply.done) (snd_prepare_of_ok hasked h)⟩

/-- The first request decides where events go, also as part of getting ready. -/
theorem receiver_perform_prepare (hasked : receiverOf environment config.logging = .ok asked)
    (h : session.receiver = none) :
    (session.perform environment (.prepare config)).1.receiver = some asked := by
  rw [receiver_perform, h, Option.none_or]
  exact Step.receiver?_eq_some_iff.mpr ⟨config.logging, rfl, hasked⟩

/-! ## Halfway -/

/-- Metrics that are not ready although a name of theirs is taken are lost with the next use. -/
theorem ensure_of_taken {ledger : Ledger} (hstage : ledger.stage ≠ .ready)
    (htaken : ∃ metric : Metric, ledger.registry.holds metric.name = true) :
    ∃ message, ledger.ensure.2 = .error (.abort message) := by
  obtain ⟨metric, hmetric⟩ := htaken
  cases hcurrent : ledger.stage with
  | untouched =>
    rcases Ledger.ensure_cases hcurrent with ⟨hfree, -⟩ | ⟨_, _, _, -, -, -, hensure⟩
    · rw [hfree metric] at hmetric
      cases hmetric
    · exact ⟨_, congrArg Prod.snd hensure⟩
  | ready => exact absurd hcurrent hstage
  | spoilt => exact ⟨_, congrArg Prod.snd (Ledger.ensure_of_spoilt hcurrent)⟩

/-- Whoever is told that the metrics cannot be used leaves them spoilt. -/
theorem stage_ensure_of_error {ledger : Ledger} {why : Failure}
    (h : ledger.ensure.2 = .error why) : ledger.ensure.1.stage = .spoilt := by
  cases hcurrent : ledger.stage with
  | untouched =>
    rcases Ledger.ensure_cases hcurrent with ⟨-, hensure⟩ | ⟨_, _, _, -, -, -, hensure⟩
    · rw [hensure] at h
      cases h
    · rw [hensure]
  | ready =>
    rw [Ledger.ensure_of_ready hcurrent] at h
    cases h
  | spoilt =>
    rw [Ledger.ensure_of_spoilt hcurrent]
    exact hcurrent

/-- Spoilt metrics stay spoilt. -/
theorem spoilt_perform (h : session.ledger.stage = .spoilt) (step : Step) :
    (session.perform environment step).1.ledger.stage = .spoilt := by
  cases hreaches : session.reaches environment step with
  | true =>
    rw [(perform_of_spoilt h hreaches).2]
    exact h
  | false =>
    exact perform_induction (P := fun ledger => ledger.stage = .spoilt)
      (fun ledger name help h => (Ledger.stage_register name help ledger).trans h) h hreaches

theorem spoilt_performAll (h : session.ledger.stage = .spoilt) (steps : List Step) :
    (performAll environment session steps).ledger.stage = .spoilt :=
  performAll_induction (P := fun session => session.ledger.stage = .spoilt)
    (fun _ step h => spoilt_perform h step) h steps

/-- **Events are received, and the metrics are lost.** Whoever asks to receive events is told that
    they are received already, also on the way to the metrics; whoever goes straight to the metrics
    is aborted. Nothing of this changes anything. -/
structure Halfway (environment : Environment) (session : Session) : Prop where
  prepare_eq : ∀ config asked, receiverOf environment config.logging = .ok asked →
    session.perform environment (.prepare config) =
      (session, .error (.error (.config .loggingInstalled)))
  installLogging_eq : ∀ settings asked, receiverOf environment settings = .ok asked →
    session.perform environment (.installLogging settings) =
      (session, .error (.error (.config .loggingInstalled)))
  run_eq : ∀ config, session.perform environment (.run config) =
    (session, .error (.abort Ledger.spoiltMessage))
  prepareMetrics_eq : session.perform environment .prepareMetrics =
    (session, .error (.abort Ledger.spoiltMessage))

theorem halfway_of_spoilt (hreceiver : session.receiver = some receiver)
    (hstage : session.ledger.stage = .spoilt) : Halfway environment session where
  prepare_eq config asked hasked := perform_of_installed rfl hasked hreceiver
  installLogging_eq settings asked hasked := perform_of_installed rfl hasked hreceiver
  run_eq config := by
    simp only [perform, run, onLedger, Ledger.ensure_of_spoilt hstage]
    rfl
  prepareMetrics_eq := by
    simp only [perform, onLedger, Ledger.ensure_of_spoilt hstage]
    rfl

/-- **A first preparation that the metrics fail leaves the process halfway**, for good. -/
theorem halfway_of_prepare {why : Failure}
    (hasked : receiverOf environment config.logging = .ok asked) (h : session.receiver = none)
    (hfailed : session.ledger.ensure.2 = .error why) (later : List Step) :
    Halfway environment
      (performAll environment (session.perform environment (.prepare config)).1 later) := by
  -- the first half has been done, the second one has spoilt the metrics, and both last
  have hspoilt : (session.perform environment (.prepare config)).1.ledger.stage = .spoilt := by
    rw [(perform_prepare hasked h).1]
    exact stage_ensure_of_error hfailed
  have hlast : (performAll environment (session.perform environment (.prepare config)).1
      later).receiver = some asked := by
    rw [receiver_performAll, receiver_perform_prepare hasked h, Option.some_or]
  exact halfway_of_spoilt hlast (spoilt_performAll hspoilt later)

/-! ## Main result -/

/-- **Where events go, after every history** of a process. They go where the first step wants them
    that asks for it and can be read, and no other step has a say. A request that cannot be read is
    aborted and changes nothing, at any time. After the first one that can, every other such request
    is an error that changes nothing at all. If there was none so far, a request succeeds in this;
    if it is part of getting ready, the metrics may still fail it, which they do where one of their
    names has been taken from them, and then events are received and the metrics are lost, for
    good. -/
theorem installation_performAll (environment : Environment) (steps : List Step) :
    let session := performAll environment {} steps
    session.receiver = steps.findSome? (Step.receiver? environment) ∧
    (∀ step settings message, step.logging? = some settings →
      receiverOf environment settings = .error message →
      session.perform environment step = (session, .error (.abort message))) ∧
    ((∃ earlier ∈ steps, earlier.receiver? environment ≠ none) →
      ∀ step, step.receiver? environment ≠ none →
        session.perform environment step =
          (session, .error (.error (.config .loggingInstalled)))) ∧
    ((∀ earlier ∈ steps, earlier.receiver? environment = none) →
      (∀ settings asked, receiverOf environment settings = .ok asked →
        session.perform environment (.installLogging settings) =
          ({ session with receiver := some asked }, .ok .done)) ∧
      ∀ config asked, receiverOf environment config.logging = .ok asked →
        (session.perform environment (.prepare config)).1.receiver = some asked ∧
        (session.ledger.Usable →
          (session.perform environment (.prepare config)).2 = .ok .done) ∧
        (session.ledger.stage ≠ .ready →
          (∃ metric : Metric, session.ledger.registry.holds metric.name = true) →
          (∃ message,
            (session.perform environment (.prepare config)).2 = .error (.abort message)) ∧
          ∀ later, Halfway environment
            (performAll environment (session.perform environment (.prepare config)).1 later))) := by
  intro session
  have hreceiver : session.receiver = steps.findSome? (Step.receiver? environment) := by
    rw [receiver_performAll, Option.none_or]
  refine ⟨hreceiver, fun step settings message => perform_of_unreadable, ?_, fun hearlier => ?_⟩
  · rintro ⟨earlier, hmem, hearlier⟩ step hstep
    have hasked : steps.findSome? (Step.receiver? environment) ≠ none := fun hnone =>
      hearlier (List.findSome?_eq_none_iff.mp hnone earlier hmem)
    obtain ⟨first, hfirst⟩ := Option.ne_none_iff_exists'.mp hasked
    obtain ⟨asked, hstep⟩ := Option.ne_none_iff_exists'.mp hstep
    obtain ⟨settings, hsettings, hread⟩ := Step.receiver?_eq_some_iff.mp hstep
    exact perform_of_installed hsettings hread (hreceiver.trans hfirst)
  · have hnone : session.receiver = none :=
      hreceiver.trans (List.findSome?_eq_none_iff.mpr hearlier)
    refine ⟨fun settings asked hasked => perform_installLogging hasked hnone,
      fun config asked hasked => ⟨receiver_perform_prepare hasked hnone, fun husable => ?_, ?_⟩⟩
    · rw [(perform_prepare hasked hnone).2, Ledger.ensure_of_usable husable]
      rfl
    · intro hstage htaken
      obtain ⟨message, hensure⟩ := ensure_of_taken hstage htaken
      have hreply : (session.perform environment (.prepare config)).2 =
          .error (.abort message) := by
        rw [(perform_prepare hasked hnone).2, hensure]
        rfl
      exact ⟨⟨message, hreply⟩, halfway_of_prepare hasked hnone hensure⟩

/-- Settings with a level that is none. -/
def loudSettings : LoggingSettings := { level := "loud" }

/-- What the filter takes this level for: a target. -/
def loudReceiver : Log.Receiver :=
  ⟨.ofDirectives [{ target := some "loud", threshold := .upTo .trace }], .compact⟩

theorem receiverOf_loudSettings : receiverOf (fun _ => none) loudSettings = .ok loudReceiver := by
  decide +kernel

/-- With a name of the metrics taken, the first preparation is aborted and leaves the process
    halfway, also after more steps. Without that, a request with a level that is none decides, and
    the preparation after it is an error that does not even touch metrics which nobody has used. -/
theorem installation_performAll_taken :
    (let session := performAll (fun _ => none) {} [.register Metric.failures.name "Failures"];
      let halfway := (session.perform (fun _ => none) (.prepare { logging := loudSettings })).1;
      halfway.receiver = some loudReceiver ∧
      (∃ message, (session.perform (fun _ => none) (.prepare { logging := loudSettings })).2 =
        .error (.abort message)) ∧
      Halfway (fun _ => none)
        (performAll (fun _ => none) halfway [.run {}, .prepare {}, .collect])) ∧
    (let session := performAll (fun _ => none) {} [.collect, .installLogging loudSettings];
      session.receiver = some loudReceiver ∧
      session.perform (fun _ => none) (.prepare { logging := loudSettings }) =
        (session, .error (.error (.config .loggingInstalled))) ∧
      session.ledger.stage = .untouched) := by
  obtain ⟨-, -, -, hfirst⟩ :=
    installation_performAll (fun _ => none) [.register Metric.failures.name "Failures"]
  obtain ⟨hreceiver, -, hlater, -⟩ :=
    installation_performAll (fun _ => none) [.collect, .installLogging loudSettings]
  obtain ⟨-, hprepare⟩ := hfirst fun earlier hearlier => by
    rw [List.mem_singleton.mp hearlier]
    rfl
  obtain ⟨hreceived, -, htaken⟩ :=
    hprepare { logging := loudSettings } loudReceiver receiverOf_loudSettings
  obtain ⟨haborted, hhalfway⟩ := htaken (by decide) ⟨.failures, by decide⟩
  have hinstall : Step.receiver? (fun _ => none) (.installLogging loudSettings) =
      some loudReceiver := Step.receiver?_eq_some_iff.mpr ⟨_, rfl, receiverOf_loudSettings⟩
  have hprepare : Step.receiver? (fun _ => none) (.prepare { logging := loudSettings }) =
      some loudReceiver := Step.receiver?_eq_some_iff.mpr ⟨_, rfl, receiverOf_loudSettings⟩
  have hasked : [Step.collect, .installLogging loudSettings].findSome?
      (Step.receiver? fun _ => none) = some loudReceiver := by
    rw [List.findSome?_cons, List.findSome?_cons, hinstall]
    rfl
  refine ⟨⟨hreceived, haborted, hhalfway _⟩, hreceiver.trans hasked, ?_, ?_⟩
  · exact hlater ⟨.installLogging loudSettings, by simp, by rw [hinstall]; simp⟩ _
      (by rw [hprepare]; simp)
  · simp only [performAll, List.foldl_cons, List.foldl_nil, perform, ledger_installLogging]

/-- **A first request need not be granted, nor a later one be an error**: with variables that stop
    the reading every request is aborted, and nobody ever receives anything. -/
theorem perform_unreadableVariables :
    ∃ message,
      ({} : Session).perform unreadableVariables (.prepare {}) = ({}, .error (.abort message)) ∧
      (performAll unreadableVariables {} [.prepare {}, .installLogging {}]).receiver = none ∧
      (performAll unreadableVariables {} [.prepare {}]).perform unreadableVariables
          (.installLogging {}) =
        (performAll unreadableVariables {} [.prepare {}], .error (.abort message)) := by
  obtain ⟨message, hread⟩ := receiverOf_of_stops stops_unreadableVariables
  refine ⟨message, perform_of_unreadable rfl (hread _), ?_, perform_of_unreadable rfl (hread _)⟩
  rw [receiver_performAll, Option.none_or, List.findSome?_eq_none_iff]
  intro step _
  rw [Step.receiver?]
  cases step.logging? with
  | none => rfl
  | some settings =>
    rw [Option.bind_some, hread]
    rfl

end Ramp.Session
