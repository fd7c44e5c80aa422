import Ramp.Proofs.Layering
import Ramp.Proofs.Outcome

/-!
# `Proofs.OverflowReport` — what becomes of a run that leaves its type

Whether the last value belongs to the type is looked at when there is room for all values, and not
before. So a run that leaves its type is reported as such only if its values take no more bytes than
any memory can have; otherwise it is aborted, and nothing is counted. Settings that are found right
do not rule that out, as they may allow every length. They do if the greatest length that they allow
has room.

## Contents
- `SequenceSettings.size`: the room that a run asks for; `SequenceSettings.Leaves`.
- `answer_of_leaves`, `run_of_tooLarge`: what the run answers.
- `run_of_leaves`: the outcome of every run that leaves its type; `run_wideSettings`: settings that
  are right and with which it is aborted.
-/

namespace Ramp

/-- The number of bytes that the values take. -/
def SequenceSettings.size (settings : SequenceSettings) : Nat :=
  settings.length.toNat * settings.elementType.bytes

/-- **The run starts in its type and leaves it**: there is a last value, and it exceeds the greatest
    one. -/
structure SequenceSettings.Leaves (settings : SequenceSettings) : Prop where
  least_le : settings.elementType.least ≤ settings.start.toInt
  le_greatest : settings.start.toInt ≤ settings.elementType.greatest
  length_pos : 0 < settings.length.toNat
  greatest_lt : settings.elementType.greatest <
    settings.start.toInt + ((settings.length.toNat : Int) - 1)

/-- The report on a run that leaves its type. -/
def SequenceSettings.overflow (settings : SequenceSettings) : Overflow :=
  ⟨settings.elementType, settings.start.toInt.repr, settings.length.toNat⟩

namespace Session

variable {session : Session} {config : Config}

/-- With room for its values, a run that leaves its type is reported. -/
theorem answer_of_leaves (h : config.sequence.Leaves)
    (hroom : config.sequence.size ≤ 9223372036854775807) :
    answer config = .error (.error (.overflow config.sequence.overflow)) := by
  have hgenerate : Sequence.ofSettings config.sequence =
      .error (.overflow config.sequence.overflow) := by
    rw [Sequence.ofSettings, Sequence.generate_of_mem h.least_le h.le_greatest]
    exact Sequence.ofStart_of_overflow hroom h.length_pos h.greatest_lt
  exact answer_of_refused hgenerate

/-- Without room for its values, a run is refused before its range is looked at. -/
theorem ofSettings_of_tooLarge
    (hleast : config.sequence.elementType.least ≤ config.sequence.start.toInt)
    (hgreatest : config.sequence.start.toInt ≤ config.sequence.elementType.greatest)
    (hroom : 9223372036854775807 < config.sequence.size) :
    Sequence.ofSettings config.sequence = .error .tooLarge := by
  rw [Sequence.ofSettings, Sequence.generate_of_mem hleast hgreatest]
  exact Sequence.ofStart_of_tooLarge _ hroom

/-- So it is aborted, and nothing is counted. -/
theorem run_of_tooLarge (husable : session.ledger.Usable)
    (h : Sequence.ofSettings config.sequence = .error .tooLarge) :
    (session.run config).2 = .error (.abort "capacity overflow") ∧
      (session.run config).1.ledger.counters = session.ledger.counters := by
  have habort := (snd_run_of_usable husable config).trans (answer_of_refused h)
  exact ⟨habort, (counters_run_of_abort husable habort).1 _ h⟩

/-- Settings that are right and allow no length without room do not ask for one. -/
theorem size_le_of_validate (hvalid : config.validate = .ok ())
    (hroom : config.sequence.maxLength.toNat * config.sequence.elementType.bytes ≤
      9223372036854775807) : config.sequence.size ≤ 9223372036854775807 :=
  Nat.le_trans (Nat.mul_le_mul_right _ (Config.validate_eq_ok_iff_sound.mp hvalid).length_le) hroom

/-- **What becomes of a run that leaves its type**, where the metrics can be used and the settings
    are right. With room for its values it is reported, with its type, its first value and its
    length, and a failure and a duration are counted. Without, it is aborted and nothing is counted.
    There is room whenever there is for the greatest length that the settings allow. -/
theorem run_of_leaves (husable : session.ledger.Usable) (hvalid : config.validate = .ok ())
    (hleaves : config.sequence.Leaves) :
    (config.sequence.size ≤ 9223372036854775807 →
      (session.run config).2 = .error (.error (.overflow config.sequence.overflow)) ∧
      (session.run config).1.ledger.counters = { session.ledger.counters with
        failures := session.ledger.counters.failures + 1
        timings := session.ledger.counters.timings + 1 }) ∧
    (9223372036854775807 < config.sequence.size →
      (session.run config).2 = .error (.abort "capacity overflow") ∧
      (session.run config).1.ledger.counters = session.ledger.counters) ∧
    (config.sequence.maxLength.toNat * config.sequence.elementType.bytes ≤ 9223372036854775807 →
      config.sequence.size ≤ 9223372036854775807) := by
  refine ⟨fun hroom => ?_, fun hroom => ?_, size_le_of_validate hvalid⟩
  · have hanswer := (snd_run_of_usable husable config).trans (answer_of_leaves hleaves hroom)
    refine ⟨hanswer, ?_⟩
    rw [counters_run husable, hanswer]
    simp [Except.map, Tally.of, Counters.plus]
  · exact run_of_tooLarge husable
      (ofSettings_of_tooLarge hleaves.least_le hleaves.le_greatest hroom)

/-- Settings that ask for a thousand values of a type that has 256. -/
def narrowSettings : Config :=
  { sequence := { elementType := .u8, length := 1000 } }

/-- Settings that allow every length that a file can give, and ask for `2 ^ 61` values. -/
def wideSettings : Config :=
  { sequence := { length := 2305843009213693952, maxLength := 9223372036854775807 } }

theorem leaves_narrowSettings : narrowSettings.sequence.Leaves :=
  ⟨by decide, by decide, by decide, by decide⟩

theorem leaves_wideSettings : wideSettings.sequence.Leaves :=
  ⟨by decide, by decide, by decide, by decide⟩

/-- In a process of its own, the run for a thousand values is reported. -/
theorem run_of_leaves_narrow :
    (({} : Session).run narrowSettings).2 =
        .error (.error (.overflow ⟨.u8, "0", 1000⟩)) ∧
      (({} : Session).run narrowSettings).1.ledger.counters = { failures := 1, timings := 1 } := by
  have husable : ({} : Session).ledger.Usable := Ledger.usable_empty
  have hvalid : narrowSettings.validate = .ok () := by decide +kernel
  obtain ⟨hreported, -, hallowed⟩ := run_of_leaves husable hvalid leaves_narrowSettings
  exact hreported (hallowed (by decide))

/-- **A run that leaves its type need not be reported**, although the settings are right and the
    metrics can be used: here it is aborted, and nothing is counted. -/
theorem run_wideSettings :
    wideSettings.validate = .ok () ∧ wideSettings.sequence.Leaves ∧
      ({} : Session).ledger.Usable ∧
      (({} : Session).run wideSettings).2 = .error (.abort "capacity overflow") ∧
      (({} : Session).run wideSettings).1.ledger.counters = {} := by
  have hvalid : wideSettings.validate = .ok () := by decide +kernel
  have htooLarge : Sequence.ofSettings wideSettings.sequence = .error .tooLarge :=
    ofSettings_of_tooLarge leaves_wideSettings.least_le leaves_wideSettings.le_greatest (by decide)
  exact ⟨hvalid, leaves_wideSettings, Ledger.usable_empty,
    run_of_tooLarge Ledger.usable_empty htooLarge⟩

end Session

end Ramp
