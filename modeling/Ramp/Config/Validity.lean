import Ramp.Config.Override
import Ramp.Log.Level

/-!
# `Config.Validity` — settings that can be used together

Settings are checked only when all of them are known.

## Contents
- `Config.IsValid`: some length is allowed, the length is allowed, and the level is a level.
- `Config.validate`: the first reason why settings are not valid, with `validate_eq_ok_iff`.
-/

namespace Ramp

/-- The level that the settings name. -/
def LoggingSettings.level? (settings : LoggingSettings) : Option Log.Level :=
  Named.ofName? settings.normalizedLevel

namespace Config

/-- Whether settings can be used. -/
def IsValid (config : Config) : Prop :=
  config.sequence.maxLength ≠ 0 ∧ config.sequence.length ≤ config.sequence.maxLength ∧
    config.logging.level?.isSome

/-- Checks settings. -/
def validate (config : Config) : Except Error Unit :=
  if config.sequence.maxLength = 0 then .error (.config .noLengthAllowed)
  else if config.sequence.maxLength < config.sequence.length then
    .error (.config (.lengthExceeded config.sequence.length.toNat config.sequence.maxLength.toNat))
  else if config.logging.level?.isNone then .error (.config (.logLevel config.logging.level))
  else .ok ()

/-- The check passes exactly the valid settings. -/
theorem validate_eq_ok_iff {config : Config} : config.validate = .ok () ↔ config.IsValid := by
  unfold validate IsValid
  rw [← UInt64.not_lt]
  by_cases hmax : config.sequence.maxLength = 0
  · simp [hmax]
  · by_cases hlength : config.sequence.maxLength < config.sequence.length
    · simp [hmax, hlength]
    · cases hlevel : config.logging.level? <;> simp [hmax, hlength]

end Config

end Ramp
