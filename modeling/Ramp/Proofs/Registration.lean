import Ramp.Proofs.Accounting

/-!
# `Proofs.Registration` — who takes which name, after every history

The metrics of the program are registered by whatever uses them first, in a registry in which others
may have taken their names by then. So a process is in one of three phases: nobody has used the
metrics yet; they are all registered; or they were registered up to the first name that was taken,
and can never be used. The second and the third phase are never left. Everything that a step can do
to the registry is said by two lemmas, for the steps that reach the metrics and for the others; the
phases and the names are followed through whole histories from these.

## Contents
- `Registry.names`, with `nodup_names_ensure` and `nodup_names_register`: no name is taken twice.
- `Session.reaches`: whether a step reaches the metrics; `perform_of_reaches`,
  `perform_of_not_reaches`: all that a step can do to the registry.
- `Ledger.Untouched`, `Ledger.Ready`, `Ledger.SpoiltAfter`: the three phases, and what keeps them.
- `Session.Available`, `Session.Unavailable`, `Session.FirstUse`: what a process can rely on.
- `registry_performAll`: the registry after every history.
-/

namespace Ramp

open Session

/-! ## Names -/

namespace Registry

variable {registry next : Registry} {registration : Registration}

/-- The names that are taken, in the order in which they were. -/
def names (registry : Registry) : List String :=
  registry.registrations.map Registration.name

theorem holds_iff_mem_names {name : String} :
    registry.holds name = true ↔ name ∈ registry.names := by
  simp [holds, names]

/-- A registration that is made takes a new name. -/
theorem nodup_names_of_register? (h : registry.names.Nodup)
    (hnext : registry.register? registration = some next) : next.names.Nodup := by
  have hfree : registry.holds registration.name = false := by
    rw [Bool.eq_false_iff]
    intro htaken
    rw [register?_eq_none_iff.mpr htaken] at hnext
    cases hnext
  rw [register?_of_free hfree] at hnext
  cases hnext
  rw [names, List.map_append, List.nodup_append]
  refine ⟨h, by simp, ?_⟩
  rintro name hname other hother rfl
  have hsame : name = registration.name := by simpa using hother
  rw [hsame] at hname
  rw [holds_iff_mem_names.mpr hname] at hfree
  cases hfree

/-- The registrations by name are the registrations, in strictly increasing order. -/
theorem sorted_pairwise (h : registry.names.Nodup) :
    registry.sorted.Perm registry.registrations ∧
      registry.sorted.Pairwise fun a b => a.name < b.name := by
  have hperm : registry.sorted.Perm registry.registrations := List.mergeSort_perm _ _
  have hle : registry.sorted.Pairwise fun a b => decide (a.name ≤ b.name) = true := by
    apply List.pairwise_mergeSort
    · intro a b c hab hbc
      exact decide_eq_true (String.le_trans (of_decide_eq_true hab) (of_decide_eq_true hbc))
    · intro a b
      simpa using String.le_total a.name b.name
  have hne : registry.sorted.Pairwise fun a b => a.name ≠ b.name :=
    List.pairwise_map.mp (((hperm.map Registration.name).nodup_iff).mpr h)
  refine ⟨hperm, (hle.and hne).imp fun {a b} hab => ?_⟩
  exact Std.lt_of_le_of_ne (of_decide_eq_true hab.1) hab.2

end Registry

namespace Ledger

variable {ledger : Ledger}

/-! ### What takes a name -/

/-- A free name is taken by whoever asks for it. -/
theorem register_of_free {name : String} (h : ledger.registry.holds name = false) (help : String) :
    ledger.register name help =
      ({ ledger with registry := ⟨ledger.registry.registrations ++ [.ofCounter name help]⟩ },
        .ok ()) := by
  have hnext : ledger.registry.register? (.ofCounter name help) =
      some ⟨ledger.registry.registrations ++ [.ofCounter name help]⟩ :=
    Registry.register?_of_free h
  rw [register, hnext]

/-- A name that is taken is refused, and nothing changes. -/
theorem register_of_holds {name : String} (h : ledger.registry.holds name = true) (help : String) :
    ledger.register name help = (ledger,
      .error (.error (.metrics "Duplicate metrics collector registration attempted"))) := by
  rw [register, Registry.register?_eq_none_iff.mpr h]

/-- **What the first use comes to.** All names of the metrics are free, and all are registered; or
    the metrics before the first name that is taken are registered, and the use fails. -/
theorem ensure_cases (h : ledger.stage = .untouched) :
    ((∀ metric : Metric, ledger.registry.holds metric.name = false) ∧
      ledger.ensure =
        ({ ledger with
            registry := ⟨ledger.registry.registrations ++ Metric.all.map .ofMetric⟩
            stage := .ready }, .ok ())) ∨
    ∃ before first after, Metric.all = before ++ first :: after ∧
      (∀ metric ∈ before, ledger.registry.holds metric.name = false) ∧
      ledger.registry.holds first.name = true ∧
      ledger.ensure =
        ({ ledger with
            registry := ⟨ledger.registry.registrations ++ before.map .ofMetric⟩
            stage := .spoilt }, .error (.abort refusedMessage)) := by
  rw [ensure, h]
  rcases registerAll_cases Metric.nodup_map_name ledger.registry with
    ⟨hfree, hall⟩ | ⟨before, first, after, hsplit, hfree, htaken, hall⟩
  · refine Or.inl ⟨fun metric => hfree metric metric.mem_all, ?_⟩
    simp only [hall]
  · refine Or.inr ⟨before, first, after, hsplit, hfree, htaken, ?_⟩
    simp only [hall]

theorem nodup_names_registerAll {metrics : List Metric} {registry : Registry}
    (h : registry.names.Nodup) : (registerAll metrics registry).1.names.Nodup := by
  induction metrics generalizing registry with
  | nil => exact h
  | cons metric rest ih =>
    rw [registerAll]
    cases hnext : registry.register? (.ofMetric metric) with
    | none => exact h
    | some next => exact ih (Registry.nodup_names_of_register? h hnext)

/-- Getting ready takes no name twice. -/
theorem nodup_names_ensure (h : ledger.registry.names.Nodup) :
    ledger.ensure.1.registry.names.Nodup := by
  have hall : (registerAll Metric.all ledger.registry).1.names.Nodup := nodup_names_registerAll h
  unfold ensure
  split
  · exact h
  · exact h
  · split
    · next hregister =>
      rw [hregister] at hall
      exact hall
    · next hregister =>
      rw [hregister] at hall
      exact hall

/-- A counter of someone else takes no name twice. -/
theorem nodup_names_register (h : ledger.registry.names.Nodup) (name help : String) :
    (ledger.register name help).1.registry.names.Nodup := by
  unfold register
  split
  · next hnext => exact Registry.nodup_names_of_register? h hnext
  · exact h

end Ledger

namespace Session

variable {environment : Environment} {session : Session} {step : Step}

/-! ## What a step can do to the registry -/

/-- Whether a step reaches the metrics of the program. Getting ready for runs stops before that
    where events are being received already, or where it cannot be read where they are to go. -/
def reaches (environment : Environment) (session : Session) : Step → Bool
  | .prepare config =>
    session.receiver.isNone && (receiverOf environment config.logging).toOption.isSome
  | .prepareMetrics | .recordFill _ _ | .recordTiming | .run _ => true
  | .installLogging _ | .register _ _ | .collect => false

theorem reaches_prepare_iff {config : Config} :
    session.reaches environment (.prepare config) = true ↔
      ∃ asked, receiverOf environment config.logging = .ok asked ∧ session.receiver = none := by
  show (session.receiver.isNone && (receiverOf environment config.logging).toOption.isSome) = true ↔
    ∃ asked, receiverOf environment config.logging = .ok asked ∧ session.receiver = none
  cases receiverOf environment config.logging <;> simp [Except.toOption]

/-- Whether an answer is that the metrics cannot be used. -/
def IsUnusable {α : Type} (reply : Except Failure α) : Prop :=
  reply = .error (.abort Ledger.refusedMessage) ∨ reply = .error (.abort Ledger.spoiltMessage)

/-- **What a use of the metrics comes to.** If they cannot be made ready, it fails with that and
    does nothing else. Otherwise it does not fail for want of them, and changes at most values. -/
def Uses {α : Type} (before after : Ledger) (reply : Except Failure α) : Prop :=
  (∃ why, before.ensure.2 = .error why ∧ reply = .error why ∧ after = before.ensure.1) ∨
  (before.ensure.2 = .ok () ∧ ¬ IsUnusable reply ∧
    after.registry = before.ensure.1.registry ∧ after.stage = before.ensure.1.stage)

theorem not_isUnusable_ok {α : Type} (a : α) : ¬ IsUnusable (.ok a : Except Failure α) := by
  rintro (h | h) <;> cases h

theorem isUnusable_of_map {α β : Type} {f : α → β} {reply : Except Failure α}
    (h : IsUnusable (reply.map f)) : IsUnusable reply := by
  cases reply with
  | error why =>
    rcases h with h | h
    · exact Or.inl (congrArg Except.error (Except.error.inj h))
    · exact Or.inr (congrArg Except.error (Except.error.inj h))
  | ok a => exact absurd h (not_isUnusable_ok (f a))

theorem Uses.map {α β : Type} {before after : Ledger} {reply : Except Failure α}
    (h : Uses before after reply) (f : α → β) : Uses before after (reply.map f) := by
  rcases h with ⟨why, hready, rfl, hafter⟩ | ⟨hready, hreply, hrest⟩
  · exact Or.inl ⟨why, hready, rfl, hafter⟩
  · exact Or.inr ⟨hready, fun h => hreply (isUnusable_of_map h), hrest⟩

/-- Getting ready is a use. -/
theorem uses_ensure (ledger : Ledger) : Uses ledger ledger.ensure.1 ledger.ensure.2 := by
  cases hready : ledger.ensure.2 with
  | error why => exact Or.inl ⟨why, hready, rfl, rfl⟩
  | ok done => exact Or.inr ⟨hready, not_isUnusable_ok done, rfl, rfl⟩

/-- A change made to the values is a use. -/
theorem uses_use (change : Counters → Counters) (ledger : Ledger) :
    Uses ledger (ledger.use change).1 (ledger.use change).2 := by
  unfold Ledger.use Uses
  rcases ledger.ensure with ⟨after, why | done⟩
  · exact Or.inl ⟨why, rfl, rfl, rfl⟩
  · exact Or.inr ⟨rfl, not_isUnusable_ok (), rfl, rfl⟩

/-- What is said where there is no room is not said of the metrics. -/
theorem not_isUnusable_of_mem {α : Type} {message : String} (h : message ∈ Sequence.roomMessages) :
    ¬ IsUnusable (.error (.abort message) : Except Failure α) := by
  rintro (hsaid | hsaid)
  · rw [Failure.abort.inj (Except.error.inj hsaid)] at h
    exact absurd h (by decide)
  · rw [Failure.abort.inj (Except.error.inj hsaid)] at h
    exact absurd h (by decide)

/-- A run is a use. That there is no room for a sequence, or for its text, is no fault of the
    metrics. -/
theorem uses_run (config : Config) (session : Session) :
    Uses session.ledger (session.run config).1.ledger (session.run config).2 := by
  rcases run_cases config session with ⟨why, hready, hreply, hledger⟩ |
    ⟨sequence, hready, -, -, hreply, hledger⟩ |
    ⟨sequence, message, hmem, hready, -, -, hreply, hledger⟩ | ⟨hready, -, hreply, hledger⟩ |
    ⟨refusal, e, hready, -, -, hreply, hledger⟩
  · exact Or.inl ⟨why, hready, hreply, hledger⟩
  · rw [hreply, hledger]
    exact Or.inr ⟨hready, not_isUnusable_ok _, rfl, rfl⟩
  · rw [hreply, hledger]
    exact Or.inr ⟨hready, not_isUnusable_of_mem hmem, rfl, rfl⟩
  · rw [hreply, hledger]
    exact Or.inr ⟨hready, not_isUnusable_of_mem (by decide), rfl, rfl⟩
  · have herror : ¬ IsUnusable (.error (.error e) : Except Failure Output) := by
      rintro (h | h) <;> cases h
    rw [hreply, hledger]
    exact Or.inr ⟨hready, herror, rfl, rfl⟩

/-- **All that a step can do that reaches the metrics**: it is a use. -/
theorem perform_of_reaches (environment : Environment)
    (h : session.reaches environment step = true) :
    Uses session.ledger (session.perform environment step).1.ledger
      (session.perform environment step).2 := by
  cases step with
  | prepare config =>
    -- events are received from now on, so nothing ends the preparation before the metrics
    obtain ⟨asked, hasked, hnone⟩ := reaches_prepare_iff.mp h
    show Uses session.ledger (session.prepare environment config).1.ledger
      ((session.prepare environment config).2.map fun _ => Reply.done)
    rw [ledger_prepare_of_ok hasked hnone, snd_prepare_of_ok hasked hnone]
    exact (uses_ensure session.ledger).map _
  | prepareMetrics => exact (uses_ensure session.ledger).map _
  | recordFill elements succeeded =>
    exact (uses_use (Counters.countFill elements succeeded) session.ledger).map _
  | recordTiming => exact (uses_use Counters.countTiming session.ledger).map _
  | run config => exact (uses_run config session).map _
  | installLogging settings => cases h
  | register name help => cases h
  | collect => cases h

/-- **All that another step can do to the ledger**: it may register a counter of someone else. -/
theorem perform_of_not_reaches (environment : Environment)
    (h : session.reaches environment step = false) :
    (session.perform environment step).1.ledger = session.ledger ∨
      ∃ name help, (session.perform environment step).1.ledger =
        (session.ledger.register name help).1 := by
  cases step with
  | prepare config =>
    refine Or.inl ?_
    show (session.prepare environment config).1.ledger = session.ledger
    rcases prepare_cases environment config session with ⟨_, -, hprepare⟩ | ⟨_, _, -, -, hprepare⟩ |
      ⟨asked, hasked, hnone⟩
    · rw [hprepare]
    · rw [hprepare]
    · rw [reaches_prepare_iff.mpr ⟨asked, hasked, hnone⟩] at h
      cases h
  | installLogging settings => exact Or.inl (ledger_installLogging environment settings session)
  | register name help => exact Or.inr ⟨name, help, rfl⟩
  | collect => exact Or.inl rfl
  | prepareMetrics => cases h
  | recordFill elements succeeded => cases h
  | recordTiming => cases h
  | run config => cases h

end Session

/-! ## The three phases -/

namespace Ledger

variable {ledger : Ledger}

/-- **Nobody has used the metrics yet**: only others have registered anything, and nothing has been
    counted. -/
structure Untouched (ledger : Ledger) : Prop where
  stage : ledger.stage = .untouched
  foreign : ∀ metric, Registration.ofMetric metric ∉ ledger.registry.registrations
  counters : ledger.counters = {}

/-- **The metrics can be used**: all of them are registered. -/
structure Ready (ledger : Ledger) : Prop where
  stage : ledger.stage = .ready
  holds : ∀ metric : Metric, ledger.registry.holds metric.name = true

/-- **The metrics can never be used**: only these of them are registered, and nothing has been
    counted. -/
structure SpoiltAfter (registered : List Metric) (ledger : Ledger) : Prop where
  stage : ledger.stage = .spoilt
  mem_iff : ∀ metric, Registration.ofMetric metric ∈ ledger.registry.registrations ↔
    metric ∈ registered
  counters : ledger.counters = {}

theorem untouched_empty : Untouched {} :=
  ⟨rfl, fun _ => List.not_mem_nil, rfl⟩

/-- A counter of someone else is none of the program. -/
theorem ofMetric_mem_register_iff {name help : String} {metric : Metric} :
    Registration.ofMetric metric ∈ (ledger.register name help).1.registry.registrations ↔
      Registration.ofMetric metric ∈ ledger.registry.registrations := by
  cases htaken : ledger.registry.holds name with
  | true => rw [register_of_holds htaken]
  | false =>
    rw [register_of_free htaken]
    simp [Registration.ofMetric, Registration.ofCounter]

theorem stage_register (name help : String) (ledger : Ledger) :
    (ledger.register name help).1.stage = ledger.stage := by
  unfold register
  split <;> rfl

/-- Names that are taken stay taken. -/
theorem holds_register {name : String} (h : ledger.registry.holds name = true)
    (other help : String) : (ledger.register other help).1.registry.holds name = true := by
  unfold register
  split
  · next hnext => rw [Registry.holds_of_register? hnext, h, Bool.true_or]
  · exact h

theorem Untouched.register (h : ledger.Untouched) (name help : String) :
    (ledger.register name help).1.Untouched where
  stage := (stage_register name help ledger).trans h.stage
  foreign metric hmem := h.foreign metric (ofMetric_mem_register_iff.mp hmem)
  counters := (counters_register name help ledger).trans h.counters

theorem Ready.register (h : ledger.Ready) (name help : String) :
    (ledger.register name help).1.Ready where
  stage := (stage_register name help ledger).trans h.stage
  holds metric := holds_register (h.holds metric) name help

theorem SpoiltAfter.register {registered : List Metric} (h : ledger.SpoiltAfter registered)
    (name help : String) : (ledger.register name help).1.SpoiltAfter registered where
  stage := (stage_register name help ledger).trans h.stage
  mem_iff metric := ofMetric_mem_register_iff.trans (h.mem_iff metric)
  counters := (counters_register name help ledger).trans h.counters

end Ledger

namespace Session

variable {environment : Environment} {session : Session} {step : Step}

/-- What holds at first and after every step holds after every history. -/
theorem performAll_induction {P : Session → Prop}
    (hstep : ∀ session step, P session → P (session.perform environment step).1)
    (h : P session) (steps : List Step) : P (performAll environment session steps) := by
  induction steps generalizing session with
  | nil => exact h
  | cons step rest ih => exact ih (hstep session step h)

/-- Whatever a counter of someone else leaves true, a step leaves true that does not reach the
    metrics. -/
theorem perform_induction {P : Ledger → Prop}
    (hregister : ∀ ledger name help, P ledger → P (ledger.register name help).1)
    (h : P session.ledger) (hreaches : session.reaches environment step = false) :
    P (session.perform environment step).1.ledger := by
  rcases perform_of_not_reaches environment hreaches with hledger | ⟨name, help, hledger⟩
  · rw [hledger]
    exact h
  · rw [hledger]
    exact hregister session.ledger name help h

/-- **No step takes a name twice.** -/
theorem nodup_names_perform (h : session.ledger.registry.names.Nodup) (step : Step) :
    (session.perform environment step).1.ledger.registry.names.Nodup := by
  cases hreaches : session.reaches environment step with
  | true =>
    rcases perform_of_reaches environment hreaches with ⟨_, -, -, hledger⟩ | ⟨-, -, hregistry, -⟩
    · rw [hledger]
      exact Ledger.nodup_names_ensure h
    · rw [hregistry]
      exact Ledger.nodup_names_ensure h
  | false =>
    exact perform_induction (P := fun ledger => ledger.registry.names.Nodup)
      (fun _ name help h => Ledger.nodup_names_register h name help) h hreaches

/-- Only a step that reaches the metrics ends the first phase. -/
theorem untouched_perform (h : session.ledger.Untouched)
    (hreaches : session.reaches environment step = false) :
    (session.perform environment step).1.ledger.Untouched :=
  perform_induction (P := Ledger.Untouched) (fun _ name help h => h.register name help) h hreaches

/-- Metrics that are ready stay ready. -/
theorem ready_perform (h : session.ledger.Ready) (step : Step) :
    (session.perform environment step).1.ledger.Ready := by
  cases hreaches : session.reaches environment step with
  | true =>
    rcases perform_of_reaches environment hreaches with
      ⟨why, hready, -, -⟩ | ⟨-, -, hregistry, hstage⟩
    · rw [Ledger.ensure_of_ready h.stage] at hready
      cases hready
    · rw [Ledger.ensure_of_ready h.stage] at hregistry hstage
      exact ⟨hstage.trans h.stage, fun metric => by rw [hregistry]; exact h.holds metric⟩
  | false =>
    exact perform_induction (P := Ledger.Ready) (fun _ name help h => h.register name help) h
      hreaches

/-- A step that reaches spoilt metrics fails and does nothing else to the ledger. -/
theorem perform_of_spoilt (h : session.ledger.stage = .spoilt)
    (hreaches : session.reaches environment step = true) :
    (session.perform environment step).2 = .error (.abort Ledger.spoiltMessage) ∧
      (session.perform environment step).1.ledger = session.ledger := by
  rcases perform_of_reaches environment hreaches with ⟨why, hready, hreply, hledger⟩ | ⟨hready, -⟩
  · rw [Ledger.ensure_of_spoilt h] at hready hledger
    cases hready
    exact ⟨hreply, hledger⟩
  · rw [Ledger.ensure_of_spoilt h] at hready
    cases hready

/-- Metrics that are spoilt stay spoilt, with the same ones registered. -/
theorem spoiltAfter_perform {registered : List Metric} (h : session.ledger.SpoiltAfter registered)
    (step : Step) : (session.perform environment step).1.ledger.SpoiltAfter registered := by
  cases hreaches : session.reaches environment step with
  | true =>
    rw [(perform_of_spoilt h.stage hreaches).2]
    exact h
  | false =>
    exact perform_induction (P := Ledger.SpoiltAfter registered)
      (fun _ name help h => h.register name help) h hreaches

/-! ## The first use -/

/-- **The metrics can be used.** -/
structure Available (environment : Environment) (session : Session) : Prop where
  /-- A change of the values is made as it is asked for. -/
  use_eq : ∀ change : Counters → Counters, session.ledger.use change =
    ({ session.ledger with counters := change session.ledger.counters }, .ok ())
  /-- No step fails for want of the metrics, and none that reaches them registers anything. -/
  perform_of_reaches : ∀ step, session.reaches environment step = true →
    ¬ IsUnusable (session.perform environment step).2 ∧
      (session.perform environment step).1.ledger.registry = session.ledger.registry
  /-- Nobody else can take one of their names. -/
  register_name : ∀ (metric : Metric) (help : String),
    session.perform environment (.register metric.name help) = (session,
      .error (.error (.metrics "Duplicate metrics collector registration attempted")))

/-- **The metrics cannot be used**, and only these of them are registered. -/
structure Unavailable (environment : Environment) (registered : List Metric) (session : Session) :
    Prop where
  /-- A step that reaches the metrics fails, and changes neither values nor registry. -/
  perform_of_reaches : ∀ step, session.reaches environment step = true →
    (session.perform environment step).2 = .error (.abort Ledger.spoiltMessage) ∧
      (session.perform environment step).1.ledger = session.ledger
  /-- The metrics that were registered are there, and no others. -/
  mem_iff : ∀ metric, Registration.ofMetric metric ∈ session.ledger.registry.registrations ↔
    metric ∈ registered
  /-- All values are zero. -/
  value_eq : ∀ metric, Exposition.value session.ledger.counters (.ofMetric metric) = 0

/-- **What the first step does that reaches the metrics**, and what follows for good. -/
structure FirstUse (environment : Environment) (session : Session) (step : Step) : Prop where
  /-- If all their names are free, all metrics are registered, and can be used ever after. -/
  of_free : (∀ metric : Metric, session.ledger.registry.holds metric.name = false) →
    ¬ IsUnusable (session.perform environment step).2 ∧
    (session.perform environment step).1.ledger.registry.registrations =
      session.ledger.registry.registrations ++ Metric.all.map .ofMetric ∧
    ∀ later, Available environment
      (performAll environment (session.perform environment step).1 later)
  /-- Otherwise the metrics before the first name that is taken are registered, the step fails
      without changing a value, and the metrics can never be used. -/
  of_taken : ∀ before first after, Metric.all = before ++ first :: after →
    (∀ metric ∈ before, session.ledger.registry.holds metric.name = false) →
    session.ledger.registry.holds first.name = true →
    (session.perform environment step).2 = .error (.abort Ledger.refusedMessage) ∧
    (session.perform environment step).1.ledger.registry.registrations =
      session.ledger.registry.registrations ++ before.map .ofMetric ∧
    (session.perform environment step).1.ledger.counters = session.ledger.counters ∧
    ∀ later, Unavailable environment before
      (performAll environment (session.perform environment step).1 later)

theorem available_of_ready (h : session.ledger.Ready) : Available environment session where
  use_eq change := by
    rw [Ledger.use_of_usable (Or.inl h.stage), Ledger.ensure_of_ready h.stage]
  perform_of_reaches step hreaches := by
    rcases Session.perform_of_reaches environment hreaches with
      ⟨why, hready, -, -⟩ | ⟨-, hreply, hregistry, -⟩
    · rw [Ledger.ensure_of_ready h.stage] at hready
      cases hready
    · rw [Ledger.ensure_of_ready h.stage] at hregistry
      exact ⟨hreply, hregistry⟩
  register_name metric help := by
    simp only [perform, onLedger, Ledger.register_of_holds (h.holds metric), Except.map]

theorem unavailable_of_spoiltAfter {registered : List Metric}
    (h : session.ledger.SpoiltAfter registered) : Unavailable environment registered session where
  perform_of_reaches step hreaches := perform_of_spoilt h.stage hreaches
  mem_iff := h.mem_iff
  value_eq metric := by
    rw [h.counters]
    cases metric <;> rfl

/-- A list has one first element that fails a test. -/
theorem eq_of_append_cons_eq {p : Metric → Bool} {before before' after after' : List Metric}
    {first first' : Metric} (h : before ++ first :: after = before' ++ first' :: after')
    (hbefore : ∀ metric ∈ before, p metric = false) (hfirst : p first = true)
    (hbefore' : ∀ metric ∈ before', p metric = false) (hfirst' : p first' = true) :
    before = before' := by
  have htake : ∀ {l r : List Metric} {m : Metric}, (∀ metric ∈ l, p metric = false) → p m = true →
      (l ++ m :: r).takeWhile (fun metric => !p metric) = l := by
    intro l r m hl hm
    rw [List.takeWhile_append_of_pos (by simpa using hl), List.takeWhile_cons_of_neg (by simp [hm]),
      List.append_nil]
  rw [← htake (r := after) hbefore hfirst, h, htake hbefore' hfirst']

/-- The first use of metrics whose names are free makes them ready. -/
theorem ready_perform_of_untouched (environment : Environment) (h : session.ledger.Untouched)
    (hreaches : session.reaches environment step = true)
    (hfree : ∀ metric : Metric, session.ledger.registry.holds metric.name = false) :
    ¬ IsUnusable (session.perform environment step).2 ∧
      (session.perform environment step).1.ledger.registry.registrations =
        session.ledger.registry.registrations ++ Metric.all.map .ofMetric ∧
      (session.perform environment step).1.ledger.Ready := by
  rcases Ledger.ensure_cases h.stage with ⟨-, hensure⟩ | ⟨_, first, _, -, -, htaken, -⟩
  · rcases perform_of_reaches environment hreaches with
      ⟨why, hready, -, -⟩ | ⟨-, hreply, hregistry, hstage⟩
    · rw [hensure] at hready
      cases hready
    · rw [hensure] at hregistry hstage
      refine ⟨hreply, congrArg Registry.registrations hregistry, hstage, fun metric => ?_⟩
      rw [hregistry, Registry.holds_iff_mem_names, Registry.names, List.map_append, List.map_map]
      exact List.mem_append_right _ (List.mem_map_of_mem metric.mem_all)
  · rw [hfree first] at htaken
    cases htaken

/-- The first use of metrics of which a name is taken spoils them. -/
theorem spoiltAfter_perform_of_untouched (environment : Environment)
    (h : session.ledger.Untouched) (hreaches : session.reaches environment step = true)
    {before after : List Metric} {first : Metric} (hall : Metric.all = before ++ first :: after)
    (hbefore : ∀ metric ∈ before, session.ledger.registry.holds metric.name = false)
    (hfirst : session.ledger.registry.holds first.name = true) :
    (session.perform environment step).2 = .error (.abort Ledger.refusedMessage) ∧
      (session.perform environment step).1.ledger.registry.registrations =
        session.ledger.registry.registrations ++ before.map .ofMetric ∧
      (session.perform environment step).1.ledger.SpoiltAfter before := by
  rcases Ledger.ensure_cases h.stage with
    ⟨hfree, -⟩ | ⟨before', first', after', hall', hbefore', hfirst', hensure⟩
  · rw [hfree first] at hfirst
    cases hfirst
  · obtain rfl := eq_of_append_cons_eq (hall.symm.trans hall') hbefore hfirst hbefore' hfirst'
    rcases perform_of_reaches environment hreaches with ⟨why, hready, hreply, hledger⟩ | ⟨hready, -⟩
    · rw [hensure] at hready hledger
      cases hready
      rw [hledger]
      refine ⟨hreply, rfl, rfl, fun metric => ?_, h.counters⟩
      -- no metric was registered before, so the registered ones are those of this step
      have hinj : ∀ m n : Metric, Registration.ofMetric m = .ofMetric n → m = n :=
        fun m n hmn => Option.some.inj (congrArg Registration.metric hmn)
      show Registration.ofMetric metric ∈
        session.ledger.registry.registrations ++ before.map .ofMetric ↔ metric ∈ before
      rw [List.mem_append, or_iff_right (h.foreign metric), List.mem_map]
      constructor
      · rintro ⟨other, hother, hsame⟩
        rw [← hinj other metric hsame]
        exact hother
      · intro hmem
        exact ⟨metric, hmem, rfl⟩
    · rw [hensure] at hready
      cases hready

/-- **The first use of untouched metrics.** -/
theorem firstUse_of_untouched (h : session.ledger.Untouched)
    (hreaches : session.reaches environment step = true) : FirstUse environment session step where
  of_free hfree := by
    obtain ⟨hreply, hregistrations, hready⟩ :=
      ready_perform_of_untouched environment h hreaches hfree
    refine ⟨hreply, hregistrations, fun later => available_of_ready ?_⟩
    exact performAll_induction (P := fun session => session.ledger.Ready)
      (fun _ step h => ready_perform h step) hready later
  of_taken before first after hall hbefore hfirst := by
    obtain ⟨hreply, hregistrations, hspoilt⟩ :=
      spoiltAfter_perform_of_untouched environment h hreaches hall hbefore hfirst
    refine ⟨hreply, hregistrations, hspoilt.counters.trans h.counters.symm,
      fun later => unavailable_of_spoiltAfter ?_⟩
    exact performAll_induction (P := fun session => session.ledger.SpoiltAfter before)
      (fun _ step h => spoiltAfter_perform h step) hspoilt later

/-! ## Main result -/

/-- Whether any of some steps reaches the metrics of the program, when it comes. -/
def anyReaches (environment : Environment) : Session → List Step → Bool
  | _, [] => false
  | session, step :: rest =>
    session.reaches environment step ||
      anyReaches environment (session.perform environment step).1 rest

/-- The first phase lasts as long as no step reaches the metrics. -/
theorem untouched_performAll {steps : List Step} (h : session.ledger.Untouched)
    (hsteps : anyReaches environment session steps = false) :
    (performAll environment session steps).ledger.Untouched := by
  induction steps generalizing session with
  | nil => exact h
  | cons step rest ih =>
    rw [anyReaches, Bool.or_eq_false_iff] at hsteps
    exact ih (untouched_perform h hsteps.1) hsteps.2

/-- **The registry after every history** of a process. No name is taken twice; whoever asks for a
    free name gets it, and nothing else changes; the metrics are shown each once, in the order of
    their names; and the next step is, if it is the first one that reaches the metrics of the
    program, a first use: with their names free it makes them usable for good, and otherwise it
    leaves those before the first taken name registered, at zero, for good. -/
theorem registry_performAll (environment : Environment) (steps : List Step) :
    let session := performAll environment {} steps
    session.ledger.registry.names.Nodup ∧
    (∀ name help, session.ledger.registry.holds name = false →
      (session.perform environment (.register name help)).2 = .ok .done ∧
      (session.perform environment (.register name help)).1 = { session with
        ledger.registry := ⟨session.ledger.registry.registrations ++ [.ofCounter name help]⟩ }) ∧
    (∃ shown : List Registration, shown.Perm session.ledger.registry.registrations ∧
      shown.Pairwise (fun a b => a.name < b.name) ∧
      session.perform environment .collect =
        (session, .ok (.lines (shown.flatMap (Exposition.lines session.ledger.counters))))) ∧
    (anyReaches environment {} steps = false → ∀ step, session.reaches environment step = true →
      FirstUse environment session step) := by
  intro session
  have hempty : ({} : Session).ledger.registry.names.Nodup := List.nodup_nil
  have hnodup : session.ledger.registry.names.Nodup :=
    performAll_induction (P := fun session => session.ledger.registry.names.Nodup)
      (fun _ step h => nodup_names_perform h step) hempty steps
  refine ⟨hnodup, fun name help hfree => ?_, ?_, fun hsteps step hreaches => ?_⟩
  · simp only [perform, onLedger, Ledger.register_of_free hfree, Except.map]
    exact ⟨trivial, trivial⟩
  · obtain ⟨hperm, hincreasing⟩ := Registry.sorted_pairwise hnodup
    exact ⟨session.ledger.registry.sorted, hperm, hincreasing, rfl⟩
  · exact firstUse_of_untouched (untouched_performAll Ledger.untouched_empty hsteps) hreaches

/-- An instance: with the name of the third metric taken, the first two are registered and the
    metrics are lost, whereas the name of something else does no harm. -/
theorem registry_performAll_taken :
    (let session := performAll (fun _ => none) {} [.register Metric.elements.name "Elements"];
      anyReaches (fun _ => none) {} [.register Metric.elements.name "Elements"] = false ∧
      (session.perform (fun _ => none) .recordTiming).1.ledger.registry.names =
        [Metric.elements.name, Metric.fills.name, Metric.failures.name] ∧
      ∀ later, Unavailable (fun _ => none) [.fills, .failures]
        (performAll (fun _ => none) (session.perform (fun _ => none) .recordTiming).1 later)) ∧
    (let session := performAll (fun _ => none) {} [.register "requests_total" "Requests", .collect];
      anyReaches (fun _ => none) {} [.register "requests_total" "Requests", .collect] = false ∧
      ∀ later, Available (fun _ => none)
        (performAll (fun _ => none) (session.perform (fun _ => none) (.run {})).1 later)) := by
  obtain ⟨-, -, -, htaken⟩ :=
    registry_performAll (fun _ => none) [.register Metric.elements.name "Elements"]
  obtain ⟨-, -, -, hfree⟩ :=
    registry_performAll (fun _ => none) [.register "requests_total" "Requests", .collect]
  obtain ⟨-, hregistered, -, hlater⟩ := (htaken rfl .recordTiming rfl).of_taken
    [.fills, .failures] .elements [.duration] rfl (by decide) (by decide)
  obtain ⟨-, -, hready⟩ := (hfree rfl (.run {}) rfl).of_free fun metric => by
    cases metric <;> decide
  refine ⟨⟨rfl, ?_, hlater⟩, rfl, hready⟩
  rw [Registry.names, hregistered]
  decide

end Session

end Ramp
