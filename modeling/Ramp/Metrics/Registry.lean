import Ramp.Metrics.Basic

/-!
# `Metrics.Registry` — metrics by name

A registry holds metrics under different names: a name that is taken is refused.

## Contents
- `Registration` and `Registry`.
- `Registry.holds`, `Registry.register?`, with `holds_of_register?`: after a registration exactly
  one more name is taken.
- `Registry.sorted`: the registrations by name.
-/

namespace Ramp

/-- A metric as it is registered. -/
structure Registration where
  name : String
  help : String
  /-- Which metric of the program it is; `none` for a counter of someone else, which stays at 0. -/
  metric : Option Metric
  deriving DecidableEq, Repr

namespace Registration

/-- The registration of a metric of the program. -/
def ofMetric (metric : Metric) : Registration :=
  ⟨metric.name, metric.help, some metric⟩

/-- The registration of a counter of someone else. -/
def ofCounter (name help : String) : Registration :=
  ⟨name, help, none⟩

/-- The kind of what is registered. -/
def kind (registration : Registration) : MetricKind :=
  (registration.metric.map Metric.kind).getD .counter

end Registration

/-- Registrations, in the order in which they were made. -/
structure Registry where
  registrations : List Registration
  deriving DecidableEq, Repr

namespace Registry

/-- The registry with nothing in it. -/
def empty : Registry := ⟨[]⟩

/-- Whether a name is taken. -/
def holds (registry : Registry) (name : String) : Bool :=
  registry.registrations.any fun registration => registration.name == name

/-- A registry with one more registration, unless its name is taken. -/
def register? (registry : Registry) (registration : Registration) : Option Registry :=
  if registry.holds registration.name then none
  else some ⟨registry.registrations ++ [registration]⟩

/-- A registration is refused exactly when its name is taken. -/
theorem register?_eq_none_iff {registry : Registry} {registration : Registration} :
    registry.register? registration = none ↔ registry.holds registration.name = true := by
  unfold register?
  split <;> simp_all

/-- After a registration exactly one more name is taken. -/
theorem holds_of_register? {registry next : Registry} {registration : Registration}
    (h : registry.register? registration = some next) (name : String) :
    next.holds name = (registry.holds name || registration.name == name) := by
  unfold register? at h
  split at h
  · cases h
  · cases h
    simp [holds]

/-- The registrations by name. -/
def sorted (registry : Registry) : List Registration :=
  registry.registrations.mergeSort fun a b => decide (a.name ≤ b.name)

end Registry

end Ramp
