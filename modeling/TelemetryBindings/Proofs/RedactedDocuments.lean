import TelemetryBindings.Proofs.Compiling
import TelemetryBindings.Proofs.ContainedCode
import TelemetryBindings.Proofs.Redaction

/-!
# Documents without their free text

A document loses its origin and the free text of all its definitions, and keeps everything else. It
is accepted exactly when it was accepted with its free text, and defines the same instruments but
for theirs.
-/
namespace TelemetryBindings

/-! ### Documents without free text -/

namespace Node

theorem entries_mapValues (f : String → Node → Node) (node : Node) :
    (node.mapValues f).entries = node.entries.map fun e => (e.1, f e.1 e.2) := by
  cases node <;> rfl

theorem get?_mapValues (f : String → Node → Node) (node : Node) (key : String) :
    (node.mapValues f).get? key = (node.get? key).map (f key) := by
  cases node with
  | mapping entries =>
    simp only [get?, mapValues, asMapping?, Option.bind_eq_bind, Option.bind_some, Option.map_eq_map,
      List.find?_map, Option.map_map]
    cases hfind : entries.find? (·.1 == key) with
    | none => simp [Function.comp_def, hfind]
    | some e =>
      have hkey : e.1 = key := by simpa using List.find?_some hfind
      simp [Function.comp_def, hfind, hkey]
  | _ => rfl

theorem isMapping_mapValues_iff {f : String → Node → Node} {node : Node} :
    (∃ entries, node.mapValues f = .mapping entries) ↔ ∃ entries, node = .mapping entries := by
  cases node <;> simp [mapValues]

end Node

namespace SourceDocument

/-- The value of a definition key without free text: a category of metrics, or a ping. -/
def redactDefinitions : DocumentKind → Node → Node
  | .metrics => Node.mapValues fun _ => Node.redactDefinition
  | .pings => Node.redactDefinition

def redactEntry (kind : DocumentKind) (key : String) (node : Node) : Node :=
  if isDefinitionKey key then redactDefinitions kind node else node

/-- The document without its free text and its origin. -/
def redact (d : SourceDocument) : SourceDocument where
  origin := ""
  root :=
    match d.kind? with
    | some kind => d.root.mapValues (redactEntry kind)
    | none => d.root

variable {d : SourceDocument} {kind : DocumentKind} {p : Policy}

theorem kind?_eq_some_iff : d.kind? = some kind ↔ d.Declares kind := by
  rw [kind?, Declares]
  cases hopen : d.open? with
  | error problem =>
    refine iff_of_false (by simp) ?_
    rintro ⟨⟨entries, hroot⟩, hschema⟩
    rw [open?_eq_ok_iff.mpr ⟨hroot, hschema⟩] at hopen
    cases hopen
  | ok opened =>
    obtain ⟨hroot, hschema⟩ := open?_eq_ok_iff.mp hopen
    rw [hschema, Option.some.injEq, Option.some.injEq]
    exact ⟨fun h => ⟨⟨_, hroot⟩, congrArg _ h⟩, fun h => DocumentKind.schema_injective h.2⟩

theorem declares_iff : d.Declares kind ↔ d.schema? = some kind.schema := by
  refine ⟨And.right, fun h => ⟨?_, h⟩⟩
  rw [schema?] at h
  cases hroot : d.root with
  | mapping entries => exact ⟨entries, rfl⟩
  | _ => simp [hroot, Node.get?, Node.asMapping?] at h

theorem schema?_redact (d : SourceDocument) : d.redact.schema? = d.schema? := by
  rw [schema?, schema?, redact]
  cases d.kind? with
  | none => rfl
  | some kind =>
    have hkept : redactEntry kind schemaKey = id := by
      funext node
      exact if_neg (by decide)
    rw [Node.get?_mapValues, hkept, Option.map_id, id]

theorem declares_redact_iff : d.redact.Declares kind ↔ d.Declares kind := by
  rw [declares_iff, declares_iff, schema?_redact]

/-- The definitions at the root of a document of the kind lose their free text. -/
theorem rootDefinitions_redact (d : SourceDocument) (kind : DocumentKind) :
    d.redact.rootDefinitions kind =
      (d.rootDefinitions kind).map fun e => (e.1, redactDefinitions kind e.2) := by
  rw [rootDefinitions, rootDefinitions, schema?_redact]
  split
  · next hschema =>
    have hkind : d.kind? = some kind := kind?_eq_some_iff.mpr (declares_iff.mpr hschema)
    simp only [redact, hkind, Node.entries_mapValues, definitions, List.filter_map]
    refine List.map_congr_left fun e he => ?_
    have hkey : isDefinitionKey e.1 = true := (List.mem_filter.mp he).2
    rw [redactEntry, if_pos hkey]
  · rfl

theorem categoryKeys_redact (d : SourceDocument) : d.redact.categoryKeys = d.categoryKeys := by
  rw [categoryKeys, categoryKeys, rootDefinitions_redact, List.map_map]
  rfl

theorem metricDefinitions_redact (d : SourceDocument) :
    d.redact.metricDefinitions =
      d.metricDefinitions.map fun t => (t.1, t.2.1, t.2.2.redactDefinition) := by
  rw [metricDefinitions, metricDefinitions, rootDefinitions_redact, List.flatMap_map,
    List.map_flatMap]
  refine List.flatMap_congr fun e _ => ?_
  simp only [redactDefinitions, Node.entries_mapValues, List.map_map]
  rfl

theorem pingDefinitions_redact (d : SourceDocument) :
    d.redact.pingDefinitions = d.pingDefinitions.map fun e => (e.1, e.2.redactDefinition) :=
  rootDefinitions_redact d .pings

theorem wellShaped_redact_iff : d.redact.WellShaped ↔ d.WellShaped := by
  have hcategories : (∀ e ∈ d.redact.rootDefinitions .metrics, ∃ ms, e.2 = .mapping ms) ↔
      ∀ e ∈ d.rootDefinitions .metrics, ∃ ms, e.2 = .mapping ms := by
    rw [rootDefinitions_redact, List.forall_mem_map]
    exact forall₂_congr fun e _ => by simp only [redactDefinitions, Node.isMapping_mapValues_iff]
  constructor
  · rintro ⟨⟨kind, hkind⟩, hshape⟩
    exact ⟨⟨kind, declares_redact_iff.mp hkind⟩, hcategories.mp hshape⟩
  · rintro ⟨⟨kind, hkind⟩, hshape⟩
    exact ⟨⟨kind, declares_redact_iff.mpr hkind⟩, hcategories.mpr hshape⟩

theorem flawless_redact_iff : d.redact.Flawless p ↔ d.Flawless p := by
  have hmetrics : (∀ t ∈ d.redact.metricDefinitions, (p.metricReading t).problems = []) ↔
      ∀ t ∈ d.metricDefinitions, (p.metricReading t).problems = [] := by
    rw [metricDefinitions_redact, List.forall_mem_map]
    refine forall₂_congr fun t _ => ?_
    rw [Policy.metricReading, Policy.metricReading, readMetric_redact.problems]
  have hpings : (∀ e ∈ d.redact.pingDefinitions, (p.pingReading e).problems = []) ↔
      ∀ e ∈ d.pingDefinitions, (p.pingReading e).problems = [] := by
    rw [pingDefinitions_redact, List.forall_mem_map]
    refine forall₂_congr fun e _ => ?_
    rw [Policy.pingReading, Policy.pingReading, readPing_redact.problems]
  constructor
  · rintro ⟨hshape, hcategories, hm, hp⟩
    exact ⟨wellShaped_redact_iff.mp hshape, categoryKeys_redact d ▸ hcategories,
      hmetrics.mp hm, hpings.mp hp⟩
  · rintro ⟨hshape, hcategories, hm, hp⟩
    exact ⟨wellShaped_redact_iff.mpr hshape, (categoryKeys_redact d).symm ▸ hcategories,
      hmetrics.mpr hm, hpings.mpr hp⟩

end SourceDocument

/-! ### Instruments without free text -/

def Instrument.redact : Instrument → Instrument
  | .metric m => .metric m.redact
  | .ping q => .ping q.redact

theorem keepsPlace_redact : KeepsPlace Instrument.redact where
  unitId i := by cases i <;> rfl
  unitKind i := by cases i <;> rfl
  identifier i := by cases i <;> rfl

section

variable {p : Policy} {D : List SourceDocument}

theorem metricDefinitionsOf_redact (D : List SourceDocument) :
    metricDefinitionsOf (D.map .redact) =
      (metricDefinitionsOf D).map fun t => (t.1, t.2.1, t.2.2.redactDefinition) := by
  simp only [metricDefinitionsOf, List.flatMap_map, List.map_flatMap,
    SourceDocument.metricDefinitions_redact]

theorem pingDefinitionsOf_redact (D : List SourceDocument) :
    pingDefinitionsOf (D.map .redact) =
      (pingDefinitionsOf D).map fun e => (e.1, e.2.redactDefinition) := by
  simp only [pingDefinitionsOf, List.flatMap_map, List.map_flatMap,
    SourceDocument.pingDefinitions_redact]

/-- Free text does not decide whether documents are accepted. -/
theorem acceptable_redact_iff :
    Acceptable (findingsOf p (D.map .redact)) ↔ Acceptable (findingsOf p D) := by
  have hflawless : (∀ d ∈ D.map SourceDocument.redact, d.Flawless p) ↔
      ∀ d ∈ D, d.Flawless p := by
    rw [List.forall_mem_map]
    exact forall₂_congr fun d _ => SourceDocument.flawless_redact_iff
  have hmetrics : (metricDefinitionsOf (D.map .redact)).map metricKey =
      (metricDefinitionsOf D).map metricKey := by
    rw [metricDefinitionsOf_redact, List.map_map]
    rfl
  have hpings : (pingDefinitionsOf (D.map .redact)).map (·.1) =
      (pingDefinitionsOf D).map (·.1) := by
    rw [pingDefinitionsOf_redact, List.map_map]
    rfl
  rw [acceptable_findingsOf_iff, acceptable_findingsOf_iff, hflawless, hmetrics, hpings]

theorem Instrument.redact_withoutOrigin :
    Instrument.redact ∘ Instrument.withoutOrigin = Instrument.redact := by
  funext i
  cases i <;> rfl

/-- The instruments of flawless documents, but for their free text, are what the definitions read
as. -/
theorem redact_instrumentsOf (hf : ∀ d ∈ D, d.Flawless p) :
    (instrumentsOf p D).map Instrument.redact =
      (((metricDefinitionsOf D).filterMap fun t =>
        (p.metricReading t).value.map Metric.redact).map .metric) ++
      (((pingDefinitionsOf D).filterMap fun e =>
        (p.pingReading e).value.map Ping.redact).map .ping) := by
  have h := congrArg (List.map Instrument.redact) (instrumentsOf_withoutOrigin hf)
  rw [List.map_map, Instrument.redact_withoutOrigin] at h
  rw [h, List.map_append, ← List.map_filterMap, ← List.map_filterMap]
  simp only [List.map_map]
  rfl

/-- Documents without free text define the same instruments, but for the free text of these. -/
theorem instrumentsOf_redact (hf : ∀ d ∈ D, d.Flawless p) :
    (instrumentsOf p (D.map .redact)).map Instrument.redact =
      (instrumentsOf p D).map Instrument.redact := by
  have hf' : ∀ d ∈ D.map SourceDocument.redact, d.Flawless p :=
    List.forall_mem_map.mpr fun d hd => SourceDocument.flawless_redact_iff.mpr (hf d hd)
  rw [redact_instrumentsOf hf, redact_instrumentsOf hf', metricDefinitionsOf_redact,
    pingDefinitionsOf_redact, List.filterMap_map, List.filterMap_map]
  have hmetric : ∀ t : String × String × Node,
      (p.metricReading (t.1, t.2.1, t.2.2.redactDefinition)).value.map Metric.redact =
        (p.metricReading t).value.map Metric.redact :=
    fun t => readMetric_redact.value
  have hping : ∀ e : String × Node,
      (p.pingReading (e.1, e.2.redactDefinition)).value.map Ping.redact =
        (p.pingReading e).value.map Ping.redact :=
    fun e => readPing_redact.value
  simp only [Function.comp_def, hmetric, hping]

/-- All instruments of flawless documents have plain names. -/
theorem plainNames_instrumentsOf (hf : ∀ d ∈ D, d.Flawless p) :
    ∀ i ∈ instrumentsOf p D, i.PlainNames := by
  intro i hi
  have hi := admitted_instrumentsOf hf i hi
  cases i with
  | metric m => exact Metric.Admitted.plainNames hi
  | ping q => exact Ping.Admitted.plainNames hi

end

end TelemetryBindings
