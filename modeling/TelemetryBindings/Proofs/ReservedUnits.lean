import TelemetryBindings.Proofs.GroupOutcome

/-!
# Reserved unit identifiers

The internal category and the pings have units with fixed identifiers. Where such a unit is there,
it is the only one under its identifier. Where it is not, a category of another spelling can take
the identifier, since collisions are looked for among the units that were formed.
-/
namespace TelemetryBindings

def reservedUnitIds : List String := [internalUnitId, pingsUnitId]

/-- The unit is not an ordinary one under a reserved identifier. -/
def OutputUnit.KeepsReserved (u : OutputUnit) : Prop :=
  (u.id = internalUnitId → u.kind = .internal) ∧ (u.id = pingsUnitId → u.kind = .pings)

namespace Model

variable {model : Model}

theorem keepsReserved_categoryUnit_iff {category : String} :
    (model.categoryUnit category).KeepsReserved ↔
      (category ≠ "" → unitId category ∉ reservedUnitIds) := by
  by_cases h : category = ""
  · subst h
    have hne : internalUnitId ≠ pingsUnitId := by decide
    simp [OutputUnit.KeepsReserved, categoryUnit, unitId, hne]
  · simp [OutputUnit.KeepsReserved, categoryUnit, reservedUnitIds, h]

theorem keepsReserved_pingsUnit (model : Model) : model.pingsUnit.KeepsReserved :=
  ⟨fun hid => absurd hid (by decide : pingsUnitId ≠ internalUnitId), fun _ => rfl⟩

/-- Grouping forms the units of the categories and of the pings, and no others. -/
theorem mem_of_group {units : List OutputUnit} (h : group model = .ok units) {u : OutputUnit} :
    u ∈ units ↔ (∃ m ∈ model.metrics, u = model.categoryUnit m.category) ∨
      model.pings ≠ [] ∧ u = model.pingsUnit := by
  obtain ⟨hgroupable, rfl⟩ := group_eq_ok_iff.mp h
  exact (dividesInto_partition hgroupable.kinds).units.mem_iff.trans mem_units

end Model

/-- Reserved identifiers are kept exactly if no category but the internal one gives one of them.
The identifier of the internal unit is kept where there are internal metrics, and that of the pings
where there are pings. -/
theorem keepsReserved_iff {model : Model} {units : List OutputUnit} (h : group model = .ok units) :
    ((∀ u ∈ units, u.KeepsReserved) ↔
      ∀ m ∈ model.metrics, m.category ≠ "" → unitId m.category ∉ reservedUnitIds) ∧
    ((∃ m ∈ model.metrics, m.category = "") →
      ∀ u ∈ units, u.id = internalUnitId → u.kind = .internal) ∧
    (model.pings ≠ [] → ∀ u ∈ units, u.id = pingsUnitId → u.kind = .pings) := by
  have hclash := Model.kindsAgree_instruments_iff.mp (group_eq_ok_iff.mp h).1.kinds
  refine ⟨⟨fun hkeeps m hm => ?_, fun hfree u hu => ?_⟩, ?_, ?_⟩
  · exact Model.keepsReserved_categoryUnit_iff.mp
      (hkeeps _ ((Model.mem_of_group h).mpr (Or.inl ⟨m, hm, rfl⟩)))
  · rcases (Model.mem_of_group h).mp hu with ⟨m, hm, rfl⟩ | ⟨-, rfl⟩
    · exact Model.keepsReserved_categoryUnit_iff.mpr (hfree m hm)
    · exact model.keepsReserved_pingsUnit
  · rintro ⟨internal, hinternal, hempty⟩ u hu hid
    rcases (Model.mem_of_group h).mp hu with ⟨m, hm, rfl⟩ | ⟨-, rfl⟩
    · have hsame : m.category = internal.category := by
        by_contra hne
        refine hclash (Or.inl ⟨m, hm, internal, hinternal, hne, hid.trans ?_⟩)
        rw [hempty, unitId, if_pos rfl]
      exact if_pos (hsame.trans hempty)
    · exact model.keepsReserved_pingsUnit.1 hid
  · intro hpings u hu hid
    rcases (Model.mem_of_group h).mp hu with ⟨m, hm, rfl⟩ | ⟨-, rfl⟩
    · exact absurd (Or.inr ⟨hpings, m, hm, hid⟩) hclash
    · rfl

def sampleMetric (category name : String) : Metric where
  category := category
  name := name
  type := .counter
  description := ""
  bugs := ["1"]
  dataReviews := []
  notificationEmails := ["a@example.com"]
  expires := .never
  lifetime := .ping
  sendInPings := ["metrics"]
  disabled := false
  version := 0
  origin := "m.yaml"

def internalModel : Model where
  metrics :=
    [sampleMetric "" "errors", sampleMetric "glean.internals" "taps", sampleMetric "" "faults"]

theorem keepsReserved_internal : ∃ units, group internalModel = .ok units ∧
    (∀ u ∈ units, u.KeepsReserved) ∧
    units.map (·.kind) = [.internal, .category "glean.internals"] := by
  have hkinds : (group internalModel).toOption.map (fun units => units.map (·.kind)) =
      some [.internal, .category "glean.internals"] := by decide
  cases h : group internalModel with
  | error e => simp [h, Except.toOption] at hkinds
  | ok units =>
    have hfree : ∀ m ∈ internalModel.metrics, m.category ≠ "" →
        unitId m.category ∉ reservedUnitIds := by decide
    refine ⟨units, rfl, (keepsReserved_iff h).1.mpr hfree, ?_⟩
    simpa [h, Except.toOption] using hkinds

/-- Neither category is the internal one or made of pings. -/
def takingModel : Model where
  metrics := [sampleMetric "Glean.internal_metrics" "taps", sampleMetric "pings" "taps"]

/-- Categories can take the reserved identifiers. -/
theorem reservedUnitIds_taken : ¬ ∀ (model : Model) (units : List OutputUnit),
    group model = .ok units → ∀ u ∈ units, u.KeepsReserved := by
  intro h
  have htaken : (group takingModel).toOption.map (fun units => units.map fun u => (u.id, u.kind)) =
      some [(internalUnitId, .category "Glean.internal_metrics"),
        (pingsUnitId, .category "pings")] := by
    decide
  cases hunits : group takingModel with
  | error e => simp [hunits, Except.toOption] at htaken
  | ok units =>
    rw [hunits] at htaken
    have hmem : (pingsUnitId, UnitKind.category "pings") ∈ units.map fun u => (u.id, u.kind) := by
      simp [Option.some.inj htaken]
    obtain ⟨u, hu, hpair⟩ := List.mem_map.mp hmem
    obtain ⟨hid, hkind⟩ := Prod.mk.inj hpair
    have hpings := (h _ _ hunits u hu).2 hid
    rw [hkind] at hpings
    cases hpings

end TelemetryBindings
