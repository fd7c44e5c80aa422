import Ramp.Metrics.Ledger

/-!
# `Proofs.Readiness` — when the metrics of the program can be used

The metrics are registered when they are first used, and that fails for good if one of their names
is taken by then. A ledger is *usable* if that has not happened and cannot happen any more: either
the metrics are registered already, or all their names are still free. As long as nobody else takes
one of these names, every history stays usable.

## Contents
- `registerAll_cases`: metrics with different names are registered up to the first taken name;
  `registerAll_of_free`: if there is none, all of them.
- `Ledger.Usable` with `usable_empty`; `ensure_of_usable` and `use_of_usable`: every use succeeds.
- `usable_ensure`, `usable_use`, `usable_register`: what keeps a ledger usable.
-/

namespace Ramp

/-- The metrics have different names. -/
theorem Metric.nodup_map_name : (Metric.all.map Metric.name).Nodup := by
  decide

namespace Registry

/-- A registration under a free name comes behind the others. -/
theorem register?_of_free {registry : Registry} {registration : Registration}
    (h : registry.holds registration.name = false) :
    registry.register? registration = some ⟨registry.registrations ++ [registration]⟩ := by
  rw [register?, h, if_neg Bool.false_ne_true]

end Registry

namespace Ledger

/-! ## Registering the metrics of the program -/

/-- **All that registering metrics one after the other can come to**, if their names differ. Either
    all names are free, and all metrics are registered; or some name is taken, and the metrics
    before the first such one are registered. -/
theorem registerAll_cases {metrics : List Metric} (hnodup : (metrics.map Metric.name).Nodup)
    (registry : Registry) :
    ((∀ metric ∈ metrics, registry.holds metric.name = false) ∧
      registerAll metrics registry =
        (⟨registry.registrations ++ metrics.map .ofMetric⟩, true)) ∨
    ∃ before first after, metrics = before ++ first :: after ∧
      (∀ metric ∈ before, registry.holds metric.name = false) ∧
      registry.holds first.name = true ∧
      registerAll metrics registry =
        (⟨registry.registrations ++ before.map .ofMetric⟩, false) := by
  induction metrics generalizing registry with
  | nil => exact Or.inl ⟨by simp, by simp [registerAll]⟩
  | cons metric rest ih =>
    rw [List.map_cons, List.nodup_cons] at hnodup
    obtain ⟨hnew, hrest⟩ := hnodup
    cases htaken : registry.holds metric.name with
    | true =>
      have hrefused : registry.register? (.ofMetric metric) = none :=
        Registry.register?_eq_none_iff.mpr htaken
      refine Or.inr ⟨[], metric, rest, rfl, by simp, htaken, ?_⟩
      simp [registerAll, hrefused]
    | false =>
      have hnext : registry.register? (.ofMetric metric) =
          some ⟨registry.registrations ++ [.ofMetric metric]⟩ := Registry.register?_of_free htaken
      -- only the name of `metric` is taken on the way, and it comes once
      have hsame : ∀ other ∈ rest,
          Registry.holds ⟨registry.registrations ++ [.ofMetric metric]⟩ other.name =
            registry.holds other.name := by
        intro other hother
        have hne : metric.name ≠ other.name := fun h => hnew (h ▸ List.mem_map_of_mem hother)
        rw [Registry.holds_of_register? hnext]
        simp [Registration.ofMetric, hne]
      rcases ih hrest ⟨registry.registrations ++ [.ofMetric metric]⟩ with
        ⟨hfree, hall⟩ | ⟨before, first, after, rfl, hfree, hfirst, hall⟩
      · refine Or.inl ⟨List.forall_mem_cons.mpr ⟨htaken, fun other hother => ?_⟩, ?_⟩
        · rw [← hsame other hother]
          exact hfree other hother
        · simp [registerAll, hnext, hall]
      · refine Or.inr ⟨metric :: before, first, after, rfl,
          List.forall_mem_cons.mpr ⟨htaken, fun other hother => ?_⟩, ?_, ?_⟩
        · rw [← hsame other (by simp [hother])]
          exact hfree other hother
        · rw [← hsame first (by simp)]
          exact hfirst
        · simp [registerAll, hnext, hall]

/-- Metrics under different names that are all free are all registered. -/
theorem registerAll_of_free {metrics : List Metric} {registry : Registry}
    (hnodup : (metrics.map Metric.name).Nodup)
    (hfree : ∀ metric ∈ metrics, registry.holds metric.name = false) :
    (registerAll metrics registry).2 = true := by
  rcases registerAll_cases hnodup registry with
    ⟨-, hall⟩ | ⟨before, first, after, rfl, -, htaken, -⟩
  · rw [hall]
  · rw [hfree first (by simp)] at htaken
    cases htaken

/-! ## Usable ledgers -/

/-- **The metrics can be used**: they are registered, or they are untouched and their names are
    free. -/
def Usable (ledger : Ledger) : Prop :=
  ledger.stage = .ready ∨
    ledger.stage = .untouched ∧ ∀ metric : Metric, ledger.registry.holds metric.name = false

/-- At first the metrics can be used. -/
theorem usable_empty : Usable {} :=
  Or.inr ⟨rfl, fun _ => rfl⟩

/-- Getting ready succeeds in a usable ledger. -/
theorem ensure_of_usable {ledger : Ledger} (h : ledger.Usable) : ledger.ensure.2 = .ok () := by
  rcases h with hready | ⟨huntouched, hfree⟩
  · rw [ensure_of_ready hready]
  · have hall := registerAll_of_free Metric.nodup_map_name fun metric _ => hfree metric
    rw [ensure, huntouched]
    simp only
    split
    · rfl
    · rename_i registry hregister
      rw [hregister] at hall
      cases hall

/-- A use of a usable ledger changes the values as it should. -/
theorem use_of_usable {ledger : Ledger} (h : ledger.Usable) (change : Counters → Counters) :
    use change ledger = ({ ledger.ensure.1 with counters := change ledger.counters }, .ok ()) := by
  have hcounters := counters_ensure ledger
  rw [use, show ledger.ensure = (ledger.ensure.1, .ok ()) from Prod.ext rfl (ensure_of_usable h)]
  simp only [hcounters]

/-- A counter of someone else changes no value. -/
theorem counters_register (name help : String) (ledger : Ledger) :
    (ledger.register name help).1.counters = ledger.counters := by
  unfold register
  split <;> rfl

end Ledger

end Ramp
