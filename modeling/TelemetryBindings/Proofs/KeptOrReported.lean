import TelemetryBindings.Proofs.Collecting

/-!
# Definitions are kept or reported

Reading a definition either gives an instrument or reports why not, and never both. The readers stop
at the first required attribute that gave no value; that a definition is not dropped in silence
there rests on the attribute schemas, which require for every type what its readers ask for. What is
reported stands behind the errors there were and names the definition, and nothing else of a builder
changes.
-/
namespace TelemetryBindings

/-- A reader that gives a value only without problems, and then always, gives none exactly if it has
one. -/
theorem Checked.value_eq_none_iff {α : Type} {c : Checked (Option α)} (hvalid : c.value = c.valid?)
    (hread : c.problems = [] → c.value.isSome) : c.value = none ↔ c.problems ≠ [] := by
  constructor
  · intro hnone hproblems
    simpa [hnone] using hread hproblems
  · intro hproblems
    rw [hvalid, valid?, if_neg hproblems]

section

variable {p : Policy} {origin category name : String} {node : Node}

theorem readMetric_eq_none_iff :
    (readMetric p origin category name node).value = none ↔
      (readMetric p origin category name node).problems ≠ [] := by
  refine Checked.value_eq_none_iff value_readMetric fun hproblems => ?_
  obtain ⟨m, hm, -⟩ := readMetric_isSome hproblems
  exact Option.isSome_of_eq_some hm

theorem readPing_eq_none_iff :
    (readPing p origin name node).value = none ↔
      (readPing p origin name node).problems ≠ [] := by
  refine Checked.value_eq_none_iff value_readPing fun hproblems => ?_
  obtain ⟨q, hq, -⟩ := readPing_isSome hproblems
  exact Option.isSome_of_eq_some hq

end

namespace Builder

variable {α : Type} {b : Builder} {location : Location}

/-- What reading a definition gives, and the builder after it, with the problems recorded at the
location. -/
def reading (b : Builder) (location : Location) (c : Checked (Option α)) : Option α × Builder :=
  (c.value, (c.findings location none).foldl record b)

/-- The builder after a reading whose value is recorded as such a finding, if it is kept. -/
def settle (r : Option α × Builder) (keep : Option (α → Finding)) : Builder :=
  (keep.bind fun finding => r.1.map finding).elim r.2 r.2.record

/-- The reading gave nothing exactly if it added errors. These stand behind all others and at the
location, and nothing but errors was added to the builder. -/
def Accounts (b : Builder) (location : Location) (r : Option α × Builder) : Prop :=
  ∃ errors, r.2 = { b with errors := b.errors ++ errors } ∧ (r.1 = none ↔ errors ≠ []) ∧
    ∀ e ∈ errors, e.location = location

theorem foldl_record_faults (errors : List SchemaError) (b : Builder) :
    (errors.map Finding.fault).foldl record b = { b with errors := b.errors ++ errors } := by
  induction errors generalizing b with
  | nil => simp
  | cons e errors ih =>
    rw [List.map_cons, List.foldl_cons, ih]
    simp [record, fail]

/-- A reader that gives nothing exactly if it has a problem accounts for its definition. -/
theorem accounts_reading {c : Checked (Option α)} (hc : c.value = none ↔ c.problems ≠ []) :
    b.Accounts location (b.reading location c) := by
  refine ⟨c.problems.map (⟨location, ·⟩), ?_, ?_, List.forall_mem_map.mpr fun _ _ => rfl⟩
  · rw [reading, ← foldl_record_faults, Checked.findings, List.map_map]
    simp [Function.comp_def]
  · rw [reading, hc, ne_eq, ne_eq, List.map_eq_nil_iff]

theorem foldl_record_findings (c : Checked (Option α)) (keep : Option (α → Finding)) :
    (c.findings location keep).foldl record b = settle (b.reading location c) keep := by
  rw [Checked.findings, List.foldl_append, settle, reading, Checked.findings, Option.bind_none,
    Option.toList_none, List.append_nil]
  cases keep.bind fun finding => c.value.map finding <;> rfl

/-- Every metric and every ping definition is accounted for, under whatever category and at whatever
location it is read. Documents read it at its own: a metric under its category as it is spelled
there, and a ping under its name. -/
theorem accounts_definitions (b : Builder) (origin key name : String) (node : Node) :
    (∀ category location, b.Accounts location
      (b.reading location (readMetric b.policy origin category name node))) ∧
    (∀ location, b.Accounts location (b.reading location (readPing b.policy origin name node))) ∧
    (∀ accepted, (metricFindings b.policy origin key accepted (name, node)).foldl record b =
      settle (b.reading (.metric key name)
          (readMetric b.policy origin (categoryOfKey key) name node))
        (if accepted then some (.metric (.metric key name)) else none)) ∧
    (pingFindings b.policy origin (name, node)).foldl record b =
      settle (b.reading (.ping name) (readPing b.policy origin name node))
        (some (.ping (.ping name))) :=
  ⟨fun _ _ => accounts_reading readMetric_eq_none_iff,
    fun _ => accounts_reading readPing_eq_none_iff,
    fun _ => foldl_record_findings _ _, foldl_record_findings _ _⟩

end Builder

end TelemetryBindings
