import TelemetryBindings.Proofs.Admission
import TelemetryBindings.Proofs.CamelCase

/-!
# The names in what was admitted

Every name of a metric or a ping that generated code spells out was checked against a grammar, so it
consists of the characters of names.
-/
namespace TelemetryBindings

open Identifier

def MetricType.names : MetricType → List String
  | .event extraKeys => extraKeys.keys
  | .labeled _ (some labels) => labels
  | _ => []

structure Metric.PlainNames (m : Metric) : Prop where
  category : Plain m.category
  name : Plain m.name
  stores : ∀ store ∈ m.sendInPings, Plain store
  keys : ∀ key ∈ m.type.names, Plain key

structure Ping.PlainNames (q : Ping) : Prop where
  name : Plain q.name
  reasons : ∀ code ∈ q.reasons.keys, Plain code

variable {p : Policy}

theorem plain_categoryOfKey {key : String} (h : p.categoryProblem? key = none) :
    Plain (categoryOfKey key) := by
  rw [categoryOfKey]
  split
  · exact fun c hc => absurd hc List.not_mem_nil
  · exact plain_of_isCategory (isCategory_of_categoryProblem? h)

theorem plain_unitId {category : String} (h : Plain category) : Plain (unitId category) := by
  rw [unitId]
  split
  · exact (by decide : Plain internalUnitId)
  · exact Text.plain_camel h

theorem Metric.Admitted.plainNames {m : Metric} (h : m.Admitted p) : m.PlainNames where
  category := by
    obtain ⟨key, hkey, hcategory⟩ := h.category
    rw [hcategory]
    exact plain_categoryOfKey hkey
  name := plain_of_isIdentifier h.name.grammar
  stores store hstore := plain_of_isPingName (h.stores store hstore)
  keys := by
    have hnone : ∀ key ∈ ([] : List String), Plain key := fun key hkey => absurd hkey List.not_mem_nil
    cases htype : m.type with
    | event extraKeys =>
      exact fun key hkey => plain_of_isIdentifier (h.keys extraKeys htype key hkey).grammar
    | labeled inner labels =>
      cases labels with
      | none => exact hnone
      | some labels =>
        exact fun label hlabel => plain_of_isLabel (h.labels inner labels htype label hlabel)
    | _ => exact hnone

theorem Ping.Admitted.plainNames {q : Ping} (h : q.Admitted p) : q.PlainNames where
  name := plain_of_isPingName h.grammar
  reasons code hcode := plain_of_isIdentifier (h.reasons code hcode).grammar

end TelemetryBindings
