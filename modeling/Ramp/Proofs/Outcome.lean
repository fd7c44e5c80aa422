import Mathlib.Data.List.Basic
import Ramp.Program
import Ramp.Proofs.LevelFilter
import Ramp.Proofs.Registration
import Ramp.Proofs.Separation
import Ramp.Proofs.WholeAmounts

/-!
# `Proofs.Outcome` — what a program prints, and with which code it ends

Once the settings of a run are known, three things follow one another: everything is made ready, the
sequence is generated and written, and the result is printed. In a process of its own one thing
alone stands in the way of getting ready: variables that stop the reading of what is let through.
Without that, what the generation answers is a matter of a few settings (`answer_eq_of_agrees`). So
what is printed and the exit code are a function of these settings too (`seen`), and neither the log
nor the metrics have a say in it.

## Contents
- `exists_sequence_of_answer`, `mem_of_answer_eq_abort`: what an answer says of its sequence.
- `Readable`: events can be received; `Program.begun`, with `ledger_begun`; `work_of_four`,
  `work_of_ok`, `work_of_error`, `work_of_stops`: what is done once the settings are known.
- `Settles`, `run_of_ok` and its siblings: what a whole run comes to.
- `isEmpty_of_answer`, `exposition_of_run`: what is printed of the sequence and of the metrics.
- `Ends`, and `run_ends`: the outcome of every run whose words are understood;
  `run_four_unreadable`: one that does not even print the constant.
- `Config.Agrees`, `Program.seen`, and `stdout_of_agrees`: what the log and the metrics cannot
  change; `stdout_unreadable`: what a filter changes that cannot be read.
-/

namespace Ramp

open Session

namespace Session

variable {session : Session} {config : Config}

/-! ## What a run answers -/

/-- What is answered is written of the sequence that was asked for, for which there was room. -/
theorem exists_sequence_of_answer {output : Output} (h : answer config = .ok output) :
    ∃ sequence, Sequence.ofSettings config.sequence = .ok sequence ∧
      sequence.length = config.sequence.length.toNat ∧ sequence.Fits config.output ∧
      output = ⟨sequence.body config.output, sequence.length⟩ := by
  cases hsequence : Sequence.ofSettings config.sequence with
  | ok sequence =>
    have hlength := Sequence.length_of_generate hsequence
    by_cases hfits : sequence.Fits config.output
    · rw [answer_of_fits hsequence hfits] at h
      exact ⟨sequence, rfl, hlength, hfits, (Except.ok.inj h).symm⟩
    · obtain ⟨message, -, hanswer⟩ := answer_of_not_fits hsequence hfits
      rw [hanswer] at h
      cases h
  | error refusal =>
    rw [answer_of_refused hsequence] at h
    cases h

/-- A run is aborted for want of room only. -/
theorem mem_of_answer_eq_abort {message : String} (h : answer config = .error (.abort message)) :
    message ∈ Sequence.roomMessages := by
  cases hsequence : Sequence.ofSettings config.sequence with
  | ok sequence =>
    by_cases hfits : sequence.Fits config.output
    · rw [answer_of_fits hsequence hfits] at h
      cases h
    · obtain ⟨message, hmem, hanswer⟩ := answer_of_not_fits hsequence hfits
      rw [hanswer] at h
      cases h
      exact hmem
  | error refusal =>
    rw [answer_of_refused hsequence] at h
    cases refusal with
    | tooLarge =>
      cases h
      decide
    | startOutside start ty => cases h
    | overflow report => cases h

/-! ### What is written -/

/-- A text is written that is empty exactly if there is nothing to write. -/
theorem isEmpty_of_answer {output : Output} (h : answer config = .ok output)
    (hformat : config.output.format = .text) :
    output.body.isEmpty = true ↔ config.sequence.length = 0 := by
  obtain ⟨sequence, -, hlength, -, rfl⟩ := exists_sequence_of_answer h
  have hbody : sequence.body config.output =
      Sequence.renderText config.output.separator sequence := by
    rw [Sequence.body, hformat]
  rw [String.isEmpty_iff, hbody, Sequence.renderText_eq_empty_iff, Sequence.isEmpty, beq_iff_eq,
    hlength, ← UInt64.toNat_inj]
  rfl

/-- In JSON nothing is written as an array with nothing in it. -/
theorem body_of_answer_json {output : Output} (h : answer config = .ok output)
    (hformat : config.output.format = .json) (hlength : config.sequence.length = 0) :
    output.body = "[]" := by
  obtain ⟨sequence, -, hcount, -, rfl⟩ := exists_sequence_of_answer h
  have hvalues : sequence.values = [] := by
    apply List.eq_nil_of_length_eq_zero
    rw [hlength] at hcount
    exact hcount
  show sequence.body config.output = "[]"
  rw [Sequence.body, hformat]
  dsimp only
  rw [Sequence.toDocument, hvalues]
  rfl

/-! ## Receiving events -/

/-- Events can be received as the settings and the variables say. -/
def Readable (environment : Environment) (config : Config) : Prop :=
  ∃ asked, receiverOf environment config.logging = .ok asked

/-- **Events can be received with every level that the check accepts**, if the variables do not stop
    the reading. -/
theorem readable_of_not_stops {environment : Environment} (hstops : ¬ environment.Stops)
    {level : Log.Level} (hlevel : config.logging.level? = some level) :
    Readable environment config := by
  obtain ⟨filter, hfilter⟩ := Log.Filter.exists_ofSettings_of_not_stops hstops hlevel
  exact ⟨⟨filter, config.logging.format⟩, by rw [receiverOf, Log.Receiver.ofSettings, hfilter]; rfl⟩

end Session

/-! ## The metrics after a run -/

/-- The lines for the metrics after one run that wrote so many elements. -/
def expositionAfterRun (elements : String) : List String :=
  ["# HELP seqfill_elements_written_total Total number of sequence elements written",
    "# TYPE seqfill_elements_written_total counter",
    "seqfill_elements_written_total " ++ elements,
    "# HELP seqfill_fill_duration_seconds Duration of sequence fills in seconds",
    "# TYPE seqfill_fill_duration_seconds histogram",
    "seqfill_fill_duration_seconds_bucket\x7ble=\"+Inf\"\x7d 1",
    "seqfill_fill_duration_seconds_count 1",
    "# HELP seqfill_fill_failures_total Total number of sequence fills that failed",
    "# TYPE seqfill_fill_failures_total counter",
    "seqfill_fill_failures_total 0",
    "# HELP seqfill_fills_total Total number of successful sequence fills",
    "# TYPE seqfill_fills_total counter",
    "seqfill_fills_total 1"]

/-- The metrics of the program in the order of their names. -/
theorem sorted_ofMetric :
    (⟨Metric.all.map .ofMetric⟩ : Registry).sorted =
      [Metric.elements, .duration, .failures, .fills].map .ofMetric := by
  -- sorted lists of the same metrics are the same, since no two names are
  have hnodup : (⟨Metric.all.map .ofMetric⟩ : Registry).names.Nodup := by decide
  obtain ⟨hperm, hincreasing⟩ := Registry.sorted_pairwise hnodup
  have hsame : ([Metric.elements, .duration, .failures, .fills].map Registration.ofMetric).Perm
      (Metric.all.map .ofMetric) := List.Perm.map _ (by decide)
  have hnames : ([Metric.elements, .duration, .failures, .fills].map Registration.ofMetric).Pairwise
      fun a b => a.name < b.name := by
    decide +kernel
  refine List.Perm.eq_of_pairwise ?_ hincreasing hnames (hperm.trans hsame.symm)
  intro a b _ _ hab hba
  exact absurd hba (String.lt_asymm hab)

/-- **What is shown of the metrics** of the program alone, after one run that succeeded. -/
theorem exposition_of_run {ledger : Ledger} {length : UInt64}
    (hregistry : ledger.registry = ⟨Metric.all.map .ofMetric⟩)
    (hcounters : ledger.counters = ⟨1, 0, length, 1⟩) :
    ledger.exposition = expositionAfterRun (Exposition.amount length) := by
  have hnone : Exposition.amount 0 = "0" := by
    rw [Exposition.amount_of_lt (by decide)]
    rfl
  have hone : Exposition.amount 1 = "1" := by
    rw [Exposition.amount_of_lt (by decide)]
    rfl
  rw [Ledger.exposition, hregistry, sorted_ofMetric, hcounters]
  simp only [List.map_cons, List.map_nil, List.flatMap_cons, List.flatMap_nil, List.append_nil,
    Exposition.lines, Exposition.value, Registration.ofMetric, Registration.kind, Metric.kind,
    Counters.get, Option.map_some, Option.getD_some, hnone, hone]
  rfl

namespace Program

variable {words : List String} {environment : Environment} {disk : Disk}
  {arguments : CommandLine.Arguments} {config : Config}

/-! ## What is done once the settings are known -/

/-- The session in which a program generates its sequence: everything has been made ready, and the
    settings have been told. -/
def begun (environment : Environment) (config : Config) : Session :=
  (Session.prepare environment config {}).1.tell none (.effectiveConfig config)

section Begun

variable (hreadable : Readable environment config)

include hreadable

/-- In a process of its own nothing else stands in the way of getting ready. -/
theorem prepare_fresh :
    (Session.prepare environment config {}).2 = .ok () ∧
      (Session.prepare environment config {}).1.ledger = ({} : Ledger).ensure.1 := by
  obtain ⟨asked, hasked⟩ := hreadable
  have hready : ({} : Ledger).ensure.2 = .ok () := Ledger.ensure_of_usable Ledger.usable_empty
  exact ⟨(snd_prepare_of_ok hasked rfl).trans hready, ledger_prepare_of_ok hasked rfl⟩

/-- The metrics are registered, and nothing has been counted. -/
theorem ledger_begun :
    (begun environment config).ledger =
      { registry := ⟨Metric.all.map .ofMetric⟩, stage := .ready, counters := {} } := by
  have hfresh : ({} : Ledger).stage = .untouched := rfl
  rw [begun, ledger_tell, (prepare_fresh hreadable).2]
  -- a fresh registry holds no name, so none of the metrics can be taken
  rcases Ledger.ensure_cases hfresh with ⟨-, hensure⟩ | ⟨_, first, _, -, -, htaken, -⟩
  · rw [hensure]
    rfl
  · cases htaken

theorem usable_begun : (begun environment config).ledger.Usable := by
  rw [ledger_begun hreadable]
  exact Or.inl rfl

/-- In its process a run answers what the settings ask for. -/
theorem snd_run_begun : ((begun environment config).run config).2 = answer config :=
  snd_run_of_usable (usable_begun hreadable) config

/-- The ledger after a run that succeeded, which is the first one. -/
theorem ledger_run_begun {output : Output} (h : answer config = .ok output) :
    ((begun environment config).run config).1.ledger =
      { registry := ⟨Metric.all.map .ofMetric⟩, stage := .ready,
        counters := ⟨1, 0, config.sequence.length, 1⟩ } := by
  have hanswer := snd_run_begun hreadable
  have hready : (begun environment config).ledger.ensure.1 = (begun environment config).ledger := by
    rw [Ledger.ensure_of_ready]
    rw [ledger_begun hreadable]
  -- of the five ways a run ends, only the one that succeeds has an output
  rcases run_cases config (begun environment config) with ⟨why, -, hresult, -⟩ |
    ⟨sequence, -, -, -, -, hledger⟩ | ⟨_, _, -, -, -, -, hresult, -⟩ | ⟨-, -, hresult, -⟩ |
    ⟨_, e, -, -, -, hresult, -⟩
  · rw [hanswer, h] at hresult
    cases hresult
  · rw [hledger, hready, ledger_begun hreadable]
    simp [Ledger.countRun, Counters.countTiming, Counters.countFill]
  · rw [hanswer, h] at hresult
    cases hresult
  · rw [hanswer, h] at hresult
    cases hresult
  · rw [hanswer, h] at hresult
    cases hresult

/-- Getting ready leaves the session in which the settings are then told. -/
theorem prepare_eq :
    ∃ session, Session.prepare environment config {} = (session, .ok ()) ∧
      begun environment config = session.tell none (.effectiveConfig config) :=
  ⟨_, Prod.ext rfl (prepare_fresh hreadable).1, rfl⟩

theorem work_of_four :
    work environment config true {} = (begun environment config, .ok ⟨"4\n", []⟩) := by
  obtain ⟨session, hprepare, hbegun⟩ := prepare_eq hreadable
  simp only [work, hprepare, hbegun, if_true]
  rfl

theorem work_of_error {why : Failure} (h : answer config = .error why) :
    work environment config false {} = (((begun environment config).run config).1, .error why) := by
  obtain ⟨session, hprepare, hbegun⟩ := prepare_eq hreadable
  have hrun : (begun environment config).run config =
      (((begun environment config).run config).1, .error why) :=
    Prod.ext rfl ((snd_run_begun hreadable).trans h)
  rw [hbegun] at hrun ⊢
  simp only [work, hprepare, Bool.false_eq_true, if_false]
  rw [hrun]

theorem work_of_ok {output : Output} (h : answer config = .ok output) :
    work environment config false {} = (((begun environment config).run config).1,
      .ok ⟨printedBody config.output.format output.body,
        if config.metrics.enabled then ((begun environment config).run config).1.ledger.exposition
        else []⟩) := by
  obtain ⟨session, hprepare, hbegun⟩ := prepare_eq hreadable
  have hrun : (begun environment config).run config =
      (((begun environment config).run config).1, .ok output) :=
    Prod.ext rfl ((snd_run_begun hreadable).trans h)
  rw [hbegun] at hrun ⊢
  simp only [work, hprepare, Bool.false_eq_true, if_false]
  rw [hrun]

end Begun

/-- With variables that stop the reading nothing is done at all, in whatever process. -/
theorem work_of_stops (h : environment.Stops) (config : Config) :
    ∃ message, ∀ onlyFour session,
      work environment config onlyFour session = (session, .error (.abort message)) := by
  obtain ⟨message, hread⟩ := receiverOf_of_stops h
  refine ⟨message, fun onlyFour session => ?_⟩
  rw [work, Session.prepare, installLogging, hread]

/-- What is printed of a run that succeeded. -/
theorem printedBody_of_answer {output : Output} (h : answer config = .ok output) :
    printedBody config.output.format output.body =
      if config.output.format = .text ∧ config.sequence.length = 0 then ""
      else output.body ++ "\n" := by
  rw [printedBody]
  cases hformat : config.output.format with
  | text => simp [isEmpty_of_answer h hformat]
  | json => simp

/-! ## Whole runs -/

/-- **The settings of a run are known**: its words are understood, and lead to them. -/
structure Settles (words : List String) (environment : Environment) (disk : Disk)
    (arguments : CommandLine.Arguments) (config : Config) : Prop where
  parse : CommandLine.parse words = .ok arguments
  load : Config.load disk (arguments.value .config) Config.defaultPath environment.lookup
    arguments.lookup = .ok config

/-- A run whose settings are wrong reports that, and does nothing in its process. -/
theorem runIn_of_load_error (session : Session) {e : Error}
    (hparse : CommandLine.parse words = .ok arguments)
    (hload : Config.load disk (arguments.value .config) Config.defaultPath environment.lookup
      arguments.lookup = .error e) :
    runIn session words environment disk = (session, { exit := 1, error := some e }) := by
  simp only [runIn, hparse, hload, errorExit]

/-! ### The ways a run ends -/

section Settles

/-- The settings that are loaded have a level that the check knows. -/
theorem Settles.exists_level (hsettles : Settles words environment disk arguments config) :
    ∃ level, config.logging.level? = some level := by
  obtain ⟨_, _, _, -, -, -, -, hsound⟩ := Config.load_eq_ok_iff.mp hsettles.load
  exact Option.isSome_iff_exists.mp (Config.isSome_level?_iff.mpr hsound.level_mem)

/-- So events can be received, if the variables do not stop the reading. -/
theorem Settles.readable (hsettles : Settles words environment disk arguments config)
    (hstops : ¬ environment.Stops) : Readable environment config := by
  obtain ⟨level, hlevel⟩ := hsettles.exists_level
  exact readable_of_not_stops hstops hlevel

variable (hsettles : Settles words environment disk arguments config)

include hsettles

/-- **With variables that stop the reading** the program is aborted before it does anything. -/
theorem runIn_of_stops (hstops : environment.Stops) :
    runIn {} words environment disk =
      ({}, { exit := 101, logFormat := config.logging.format }) := by
  obtain ⟨message, hwork⟩ := work_of_stops hstops config
  simp only [runIn, hsettles.parse, hsettles.load, hwork, abortExit]

variable (hstops : ¬ environment.Stops)

include hstops

theorem run_of_four (hfour : arguments.isSet .four = true) :
    run words environment disk =
      { exit := 0, stdout := "4\n", log := (begun environment config).log
        logFormat := config.logging.format } := by
  simp only [run, runIn, hsettles.parse, hsettles.load, hfour,
    work_of_four (hsettles.readable hstops)]

variable (hfour : arguments.isSet .four = false)

include hfour

theorem run_of_refused {e : Error} (hanswer : answer config = .error (.error e)) :
    run words environment disk =
      { exit := 1, log := ((begun environment config).run config).1.log
        logFormat := config.logging.format, error := some e } := by
  simp only [run, runIn, hsettles.parse, hsettles.load, hfour,
    work_of_error (hsettles.readable hstops) hanswer, errorExit]

theorem run_of_aborted {message : String} (hanswer : answer config = .error (.abort message)) :
    run words environment disk =
      { exit := 101, log := ((begun environment config).run config).1.log
        logFormat := config.logging.format } := by
  simp only [run, runIn, hsettles.parse, hsettles.load, hfour,
    work_of_error (hsettles.readable hstops) hanswer, abortExit]

theorem run_of_ok {output : Output} (hanswer : answer config = .ok output) :
    run words environment disk =
      { exit := 0
        stdout := if config.output.format = .text ∧ config.sequence.length = 0 then ""
          else output.body ++ "\n"
        log := ((begun environment config).run config).1.log, logFormat := config.logging.format
        exposition := if config.metrics.enabled then
            expositionAfterRun (Exposition.amount config.sequence.length)
          else [] } := by
  have hreadable := hsettles.readable hstops
  have hledger : ((begun environment config).run config).1.ledger = _ :=
    ledger_run_begun hreadable hanswer
  have hexposition := exposition_of_run (congrArg Ledger.registry hledger)
    (congrArg Ledger.counters hledger)
  simp only [run, runIn, hsettles.parse, hsettles.load, hfour, work_of_ok hreadable hanswer,
    hexposition, printedBody_of_answer hanswer]

end Settles

/-! ## The outcome of a run -/

/-- **How a program ends** whose settings are known: whether the constant alone is asked for, and
    otherwise what the run of the sequence replies, decides. -/
structure Ends (config : Config) (onlyFour : Bool) (reply : Except Failure Output)
    (outcome : Outcome) : Prop where
  /-- The constant alone is printed whatever the sequence would be, and no metrics are. -/
  four : onlyFour = true → outcome.exit = 0 ∧ outcome.error = none ∧ outcome.stdout = "4\n" ∧
    outcome.exposition = []
  /-- An error of the run is the error of the program, and nothing is printed. -/
  refused : onlyFour = false → ∀ e, reply = .error (.error e) →
    outcome.exit = 1 ∧ outcome.error = some e ∧ outcome.stdout = "" ∧ outcome.exposition = []
  /-- A run that is aborted, for want of room, aborts the program, and nothing is printed. -/
  aborted : onlyFour = false → ∀ message, reply = .error (.abort message) →
    message ∈ Sequence.roomMessages ∧ outcome.exit = 101 ∧ outcome.error = none ∧
      outcome.stdout = "" ∧ outcome.exposition = []
  /-- What the run writes is printed on a line of its own, except that of nothing in text nothing
      is printed. -/
  printed : onlyFour = false → ∀ output, reply = .ok output →
    outcome.exit = 0 ∧ outcome.error = none ∧
      (outcome.stdout = if config.output.format = .text ∧ config.sequence.length = 0 then ""
        else output.body ++ "\n") ∧
      (outcome.stdout = "" ↔ config.output.format = .text ∧ config.sequence.length = 0) ∧
      (config.output.format = .json → config.sequence.length = 0 → outcome.stdout = "[]\n")
  /-- The metrics are shown if they are asked for: one fill, no failure, one duration and all
      elements, whose number is shown in decimal below `2 ^ 53`. -/
  shown : onlyFour = false → ∀ output, reply = .ok output →
    ∃ elements, (config.sequence.length.toNat < 2 ^ 53 →
        elements = config.sequence.length.toNat.repr) ∧
      outcome.exposition = if config.metrics.enabled then expositionAfterRun elements else []

theorem append_newline_ne (s : String) : s ++ "\n" ≠ "" := by
  intro h
  have hlist := congrArg String.toList h
  simp at hlist

/-- **A program whose settings are known ends as its settings and its run say**, if nothing stops
    the reading of what is let through. -/
theorem ends_of_settles (hsettles : Settles words environment disk arguments config)
    (hstops : ¬ environment.Stops) :
    Ends config (arguments.isSet .four) ((begun environment config).run config).2
      (run words environment disk) := by
  rw [snd_run_begun (hsettles.readable hstops)]
  refine ⟨fun hfour => ?_, fun hfour e hanswer => ?_, fun hfour message hanswer => ?_,
    fun hfour output hanswer => ?_, fun hfour output hanswer => ?_⟩
  · rw [run_of_four hsettles hstops hfour]
    exact ⟨rfl, rfl, rfl, rfl⟩
  · rw [run_of_refused hsettles hstops hfour hanswer]
    exact ⟨rfl, rfl, rfl, rfl⟩
  · rw [run_of_aborted hsettles hstops hfour hanswer]
    exact ⟨mem_of_answer_eq_abort hanswer, rfl, rfl, rfl, rfl⟩
  · rw [run_of_ok hsettles hstops hfour hanswer]
    refine ⟨rfl, rfl, rfl, ?_, fun hformat hlength => ?_⟩
    · dsimp only
      split
      · next hempty => exact ⟨fun _ => hempty, fun _ => rfl⟩
      · next hempty => exact ⟨fun h => absurd h (append_newline_ne _), fun h => absurd h hempty⟩
    · dsimp only
      rw [hformat, body_of_answer_json hanswer hformat hlength]
      rfl
  · rw [run_of_ok hsettles hstops hfour hanswer]
    exact ⟨Exposition.amount config.sequence.length, Exposition.amount_of_lt, rfl⟩

/-- **The outcome of every run whose words are understood.** If the settings are wrong, this is
    reported, nothing is printed, and the process is left as it was. Otherwise the program ends as
    its settings and its run say; unless the variables stop the reading of what is let through, with
    which it is aborted before it does anything, whatever it is asked for. -/
theorem run_ends (hparse : CommandLine.parse words = .ok arguments) (environment : Environment)
    (disk : Disk) :
    (∀ e, Config.load disk (arguments.value .config) Config.defaultPath environment.lookup
        arguments.lookup = .error e →
      run words environment disk = { exit := 1, stdout := "", error := some e } ∧
        (runIn {} words environment disk).1 = {}) ∧
    ∀ config, Config.load disk (arguments.value .config) Config.defaultPath environment.lookup
        arguments.lookup = .ok config →
      (¬ environment.Stops →
        Ends config (arguments.isSet .four) ((begun environment config).run config).2
          (run words environment disk)) ∧
      (environment.Stops →
        run words environment disk =
            { exit := 101, stdout := "", logFormat := config.logging.format } ∧
          (runIn {} words environment disk).1 = {}) := by
  constructor
  · intro e hload
    have hrun := runIn_of_load_error {} hparse hload
    rw [run, hrun]
    exact ⟨rfl, rfl⟩
  · intro config hload
    refine ⟨ends_of_settles ⟨hparse, hload⟩, fun hstops => ?_⟩
    rw [run, runIn_of_stops ⟨hparse, hload⟩ hstops]
    exact ⟨rfl, rfl⟩

/-- Words that ask for three values and for the metrics. -/
def threeWords : List String :=
  ["-n", "3", "--start=-1", "--metrics"]

/-- What they lead to. -/
def threeSettings : Config :=
  { sequence := { start := -1, length := 3 }, metrics := { enabled := true } }

/-- No variables stop no reading. -/
theorem not_stops_empty : ¬ Environment.Stops fun _ => none :=
  Environment.not_stops_of_refused rfl

/-- Three values are printed and counted; and if the constant alone is asked for, a first value that
    does not fit does no harm. -/
theorem run_ends_three :
    ((run threeWords (fun _ => none) .empty).exit = 0 ∧
      (run threeWords (fun _ => none) .empty).stdout = "-1 0 1\n" ∧
      (run threeWords (fun _ => none) .empty).exposition = expositionAfterRun "3") ∧
    (run ["--four", "-tu8", "--start=-1"] (fun _ => none) .empty).stdout = "4\n" := by
  constructor
  · obtain ⟨arguments, hsettles, hfour⟩ : ∃ arguments,
        Settles threeWords (fun _ => none) .empty arguments threeSettings ∧
          arguments.isSet .four = false :=
      ⟨_, ⟨rfl, by decide +kernel⟩, rfl⟩
    have hends := ((run_ends hsettles.parse (fun _ => none) .empty).2 _ hsettles.load).1
      not_stops_empty
    have hanswer : answer threeSettings = .ok ⟨"-1 0 1", 3⟩ := by
      decide +kernel
    rw [snd_run_begun (hsettles.readable not_stops_empty), hanswer] at hends
    obtain ⟨hexit, -, hstdout, -⟩ := hends.printed hfour _ rfl
    obtain ⟨elements, helements, hshown⟩ := hends.shown hfour _ rfl
    rw [helements (by decide)] at hshown
    exact ⟨hexit, hstdout, hshown⟩
  · obtain ⟨arguments, hsettles, hfour⟩ : ∃ arguments,
        Settles ["--four", "-tu8", "--start=-1"] (fun _ => none) .empty arguments
            { sequence := { elementType := .u8, start := -1 } } ∧
          arguments.isSet .four = true :=
      ⟨_, ⟨rfl, by decide +kernel⟩, rfl⟩
    have hends := ((run_ends hsettles.parse (fun _ => none) .empty).2 _ hsettles.load).1
      not_stops_empty
    exact (hends.four hfour).2.2.1

/-- **The constant need not be printed**: with variables that stop the reading the program is
    aborted although its settings are right and the constant alone is asked for. -/
theorem run_four_unreadable :
    (∃ arguments, CommandLine.parse ["--four"] = .ok arguments ∧ arguments.isSet .four = true ∧
      Config.load .empty (arguments.value .config) Config.defaultPath unreadableVariables.lookup
        arguments.lookup = .ok {}) ∧
    (run ["--four"] unreadableVariables .empty).stdout = "" ∧
    (run ["--four"] unreadableVariables .empty).exit = 101 := by
  obtain ⟨arguments, hsettles, hfour⟩ : ∃ arguments,
      Settles ["--four"] unreadableVariables .empty arguments {} ∧ arguments.isSet .four = true :=
    ⟨_, ⟨rfl, by decide +kernel⟩, rfl⟩
  refine ⟨⟨arguments, hsettles.parse, hfour, hsettles.load⟩, ?_⟩
  rw [run, runIn_of_stops hsettles stops_unreadableVariables]
  exact ⟨rfl, rfl⟩

/-! ## What the log and the metrics cannot change -/

end Program

/-- **Settings agree on what is printed** if they are the same but for the log, the metrics and the
    greatest length that is allowed. -/
structure Config.Agrees (config other : Config) : Prop where
  elementType : other.sequence.elementType = config.sequence.elementType
  start : other.sequence.start = config.sequence.start
  length : other.sequence.length = config.sequence.length
  output : other.output = config.output

/-- The same sequence is asked for then. -/
theorem Sequence.ofSettings_of_agrees {config other : Config} (h : config.Agrees other) :
    Sequence.ofSettings other.sequence = Sequence.ofSettings config.sequence := by
  rw [Sequence.ofSettings, h.elementType, h.start, h.length]
  rfl

/-- The greatest length that is allowed, the log and the metrics make no difference to an answer. -/
theorem Session.answer_eq_of_agrees {config other : Config} (h : config.Agrees other) :
    answer other = answer config := by
  rw [answer, answer, Sequence.ofSettings_of_agrees h, h.output]

namespace Program

variable {words words' : List String} {environment environment' : Environment}
  {disk disk' : Disk} {arguments arguments' : CommandLine.Arguments} {config config' : Config}

/-- What is seen of a program from outside: what it prints, and its exit code. -/
def Outcome.seen (outcome : Outcome) : String × Nat :=
  (outcome.stdout, outcome.exit)

theorem Outcome.seen_eq_iff {outcome other : Outcome} :
    outcome.seen = other.seen ↔ outcome.stdout = other.stdout ∧ outcome.exit = other.exit := by
  rw [seen, seen, Prod.mk.injEq]

/-- What is seen of a program with some settings, if nothing stops the reading of what is let
    through. -/
def seen (config : Config) (onlyFour : Bool) : String × Nat :=
  if onlyFour then ("4\n", 0)
  else
    match answer config with
    | .ok output =>
      (if config.output.format = .text ∧ config.sequence.length = 0 then ""
        else output.body ++ "\n", 0)
    | .error (.error _) => ("", 1)
    | .error (.abort _) => ("", 101)

theorem seen_of_settles (hsettles : Settles words environment disk arguments config)
    (hstops : ¬ environment.Stops) :
    (run words environment disk).seen = seen config (arguments.isSet .four) := by
  unfold seen
  cases hfour : arguments.isSet .four with
  | true =>
    rw [run_of_four hsettles hstops hfour]
    rfl
  | false =>
    rw [if_neg Bool.false_ne_true]
    cases hanswer : answer config with
    | ok output =>
      rw [run_of_ok hsettles hstops hfour hanswer]
      rfl
    | error why =>
      cases why with
      | error e =>
        rw [run_of_refused hsettles hstops hfour hanswer]
        rfl
      | abort message =>
        rw [run_of_aborted hsettles hstops hfour hanswer]
        rfl

theorem seen_of_stops (hsettles : Settles words environment disk arguments config)
    (hstops : environment.Stops) : (run words environment disk).seen = ("", 101) := by
  rw [run, runIn_of_stops hsettles hstops]
  rfl

/-- Settings that agree are seen as the same. -/
theorem seen_eq_of_agrees (hagrees : config.Agrees config') (onlyFour : Bool) :
    seen config' onlyFour = seen config onlyFour := by
  rw [seen, seen, answer_eq_of_agrees hagrees, hagrees.output, hagrees.length]

/-- A program is seen to be aborted if its run is. -/
theorem seen_eq_aborted_iff {onlyFour : Bool} :
    seen config onlyFour = ("", 101) ↔
      onlyFour = false ∧ ∃ message, answer config = .error (.abort message) := by
  unfold seen
  cases onlyFour with
  | true => simp
  | false =>
    rw [if_neg Bool.false_ne_true]
    rcases answer config with ⟨e | message⟩ | output <;> simp

/-- **What is printed, and the exit code, are a matter of a few settings.** Two runs with settings
    that agree on the type, the first value, the length, the format and the separator, of which both
    or neither ask for the constant alone, print the same and end with the same code, whatever their
    log, their metrics and the greatest length are, and from wherever the settings come. That is so
    exactly if the variables stop the reading of what is let through in both or in neither of them,
    or if the run of the sequence is aborted anyway: for with such variables nothing is printed, and
    the program is aborted. -/
theorem stdout_of_agrees (hsettles : Settles words environment disk arguments config)
    (hsettles' : Settles words' environment' disk' arguments' config')
    (hagrees : config.Agrees config') (hfour : arguments'.isSet .four = arguments.isSet .four) :
    ((run words' environment' disk').stdout = (run words environment disk).stdout ∧
        (run words' environment' disk').exit = (run words environment disk).exit ↔
      (environment'.Stops ↔ environment.Stops) ∨
        arguments.isSet .four = false ∧ ∃ message, answer config = .error (.abort message)) ∧
    (environment.Stops →
      (run words environment disk).stdout = "" ∧ (run words environment disk).exit = 101) := by
  have hsame : seen config' (arguments'.isSet .four) = seen config (arguments.isSet .four) := by
    rw [hfour, seen_eq_of_agrees hagrees]
  refine ⟨?_, fun hstops => Prod.ext_iff.mp (seen_of_stops hsettles hstops)⟩
  rw [← Outcome.seen_eq_iff, ← seen_eq_aborted_iff]
  -- what is seen of a run goes by its settings, or else it is that the program is aborted
  by_cases hstops : environment.Stops <;> by_cases hstops' : environment'.Stops
  · rw [seen_of_stops hsettles hstops, seen_of_stops hsettles' hstops']
    simp [hstops, hstops']
  · rw [seen_of_stops hsettles hstops, seen_of_settles hsettles' hstops', hsame]
    simp [hstops, hstops']
  · rw [seen_of_settles hsettles hstops, seen_of_stops hsettles' hstops']
    simp [hstops, hstops', eq_comm]
  · rw [seen_of_settles hsettles hstops, seen_of_settles hsettles' hstops', hsame]
    simp [hstops, hstops']

/-- Variables that ask for the same three values, for every event in JSON and for metrics. -/
def talkativeVariables : Environment
  | "SF_LENGTH" => some "3"
  | "SF_START" => some "-1"
  | "SF_LOG_FORMAT" => some "json"
  | "SF_METRICS" => some "yes"
  | "RUST_LOG" => some "trace,seqfill=debug"
  | _ => none

/-- A value in which no directive begins with a blank stops nothing. -/
theorem not_stops_talkativeVariables : ¬ talkativeVariables.Stops := by
  intro hstops
  obtain ⟨piece, hpiece, ⟨c, hc, hblank⟩, -⟩ := Log.Filter.exists_piece_of_stops hstops
  have hpieces : Log.Filter.pieces "trace,seqfill=debug" = ["trace", "seqfill=debug"] := by
    decide +kernel
  rw [hpieces] at hpiece
  rcases List.mem_cons.mp hpiece with rfl | hpiece
  · cases hc
    exact absurd hblank (by decide)
  · cases List.mem_singleton.mp hpiece
    cases hc
    exact absurd hblank (by decide)

/-- Words that tell nothing, and variables that have everything told. -/
theorem stdout_of_agrees_talkative :
    (run [] talkativeVariables .empty).stdout =
        (run ["-n", "3", "--start=-1", "--log-level=error"] (fun _ => none) .empty).stdout ∧
      (run [] talkativeVariables .empty).exit =
        (run ["-n", "3", "--start=-1", "--log-level=error"] (fun _ => none) .empty).exit := by
  obtain ⟨arguments, hsettles, hfour⟩ : ∃ arguments,
      Settles ["-n", "3", "--start=-1", "--log-level=error"] (fun _ => none) .empty arguments
          { sequence := { start := -1, length := 3 }, logging := { level := "error" } } ∧
        arguments.isSet .four = false :=
    ⟨_, ⟨rfl, by decide +kernel⟩, rfl⟩
  obtain ⟨arguments', hsettles', hfour'⟩ : ∃ arguments,
      Settles [] talkativeVariables .empty arguments
          { sequence := { start := -1, length := 3 }, logging := { format := .json }
            metrics := { enabled := true } } ∧
        arguments.isSet .four = false :=
    ⟨_, ⟨rfl, by decide +kernel⟩, rfl⟩
  have hsame := stdout_of_agrees hsettles hsettles' ⟨rfl, rfl, rfl, rfl⟩ (hfour'.trans hfour.symm)
  exact hsame.1.mpr (.inl (iff_of_false not_stops_talkativeVariables not_stops_empty))

/-- **What is told may change what is printed**: the same words, with variables that agree on every
    setting, print three values or nothing, by whether the filter in the variables can be read. -/
theorem stdout_unreadable :
    ∃ arguments,
      Settles ["-n", "3"] (fun _ => none) .empty arguments { sequence := { length := 3 } } ∧
      Settles ["-n", "3"] unreadableVariables .empty arguments { sequence := { length := 3 } } ∧
      (run ["-n", "3"] (fun _ => none) .empty).seen = ("0 1 2\n", 0) ∧
      (run ["-n", "3"] unreadableVariables .empty).seen = ("", 101) := by
  obtain ⟨arguments, hparse, hload, hload', hfour⟩ : ∃ arguments,
      CommandLine.parse ["-n", "3"] = .ok arguments ∧
      Config.load .empty (arguments.value .config) Config.defaultPath
        (Environment.lookup fun _ => none) arguments.lookup =
          .ok { sequence := { length := 3 } } ∧
      Config.load .empty (arguments.value .config) Config.defaultPath
        unreadableVariables.lookup arguments.lookup = .ok { sequence := { length := 3 } } ∧
      arguments.isSet .four = false :=
    ⟨_, rfl, by decide +kernel, by decide +kernel, rfl⟩
  refine ⟨arguments, ⟨hparse, hload⟩, ⟨hparse, hload'⟩, ?_,
    seen_of_stops ⟨hparse, hload'⟩ stops_unreadableVariables⟩
  rw [seen_of_settles ⟨hparse, hload⟩ not_stops_empty, hfour]
  decide +kernel

end Program

end Ramp
