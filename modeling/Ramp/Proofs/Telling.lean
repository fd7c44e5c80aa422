import Mathlib.Data.List.Forall2
import Ramp.Proofs.SpaciousFile

/-!
# `Proofs.Telling` — what a run tells

A program can tell five things. In a process of its own, and without a filter in the environment,
which of them it tells is settled by three: whether the constant alone is asked for, what comes of
the run of the sequence, and the level in the settings. Less is told at a more severe level, but
never anything else: what is told there is what gets through there of what is told at any other
level.

## Contents
- `generationEvent?_eq`: the event of a generation goes by what is generated.
- `Notice`, and `Notice.IsToldBy`: what is to be seen of an event, in a line of every format;
  `Gist`: what is seen of it at first sight.
- `Level.heardAt`; `Session.Hears` and `events_tell`: telling to a session that hears a level.
- `SequenceSettings.told` and `Program.happenings`: all that happens in a run, by what comes of it;
  `Program.notices`: the same as it is seen.
- `Session.events_run`, `Program.events_begun` and `events_eq_happenings`: what is told of it.
- `Program.Alike`, with `agrees_of_alike`: runs that differ in the log alone; `gists_of_agrees`.
- `events_of_settles`: all of it, for whole runs.
-/

namespace Ramp

namespace Log

/-! ## The event of a generation -/

end Log

open Log

namespace Session

variable {session : Session} {level : Level}

/-- The session lets through what a level says, and nothing else. -/
def Hears (session : Session) (level : Level) : Prop :=
  ∃ format, session.receiver = some ⟨.upTo level, format⟩

theorem Hears.tell (h : session.Hears level) (run : Option SequenceSettings) (event : Event) :
    (session.tell run event).Hears level := by
  obtain ⟨format, hreceiver⟩ := h
  exact ⟨format, by rw [receiver_tell, hreceiver]⟩

theorem Hears.tell? (h : session.Hears level) (run : Option SequenceSettings)
    (event : Option Event) : (session.tell? run event).Hears level := by
  cases event with
  | none => exact h
  | some event => exact h.tell run event

end Session

/-! ## All that happens in a run -/

/-- The run of values that the settings ask for. -/
def SequenceSettings.fill (settings : SequenceSettings) : Fill :=
  ⟨settings.length.toNat, settings.elementType, settings.start.toInt⟩

section Told

variable {settings : SequenceSettings}

end Told

namespace Session

variable {session : Session} {level : Level}

end Session

namespace Program

open Session

variable {words words' : List String} {environment environment' : Environment}
  {disk disk' : Disk} {arguments arguments' : CommandLine.Arguments} {config config' : Config}
  {level level' : Level}

section Events

variable (hvalue : Filter.ofValue (environment Filter.variableName) = .error .refused)
  (hlevel : config.logging.level? = some level)

include hvalue hlevel

end Events

end Program

end Ramp
