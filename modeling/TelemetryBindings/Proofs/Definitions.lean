import TelemetryBindings.Proofs.Findings
import TelemetryBindings.Proofs.Reading

/-!
# The definitions of documents

The definitions of a document can be listed from its tree alone, without validating anything. A
document has no problems exactly when it is of a known kind, the keys of its categories are
accepted and every definition on its own is read without problems; its findings are then what the
definitions read as, in order.
-/
namespace TelemetryBindings

def Node.entries : Node → List (String × Node)
  | .mapping entries => entries
  | _ => []

namespace SourceDocument

def schema? (d : SourceDocument) : Option String :=
  (d.root.get? schemaKey).bind Node.asString?

def Declares (d : SourceDocument) (kind : DocumentKind) : Prop :=
  (∃ entries, d.root = .mapping entries) ∧ d.schema? = some kind.schema

def rootDefinitions (d : SourceDocument) (kind : DocumentKind) : List (String × Node) :=
  if d.schema? = some kind.schema then definitions d.root.entries else []

def categoryKeys (d : SourceDocument) : List String := (d.rootDefinitions .metrics).map (·.1)

/-- Every metric definition under the key of its category, in order. -/
def metricDefinitions (d : SourceDocument) : List (String × String × Node) :=
  (d.rootDefinitions .metrics).flatMap fun (key, node) => node.entries.map (key, ·)

def pingDefinitions (d : SourceDocument) : List (String × Node) := d.rootDefinitions .pings

structure WellShaped (d : SourceDocument) : Prop where
  kind : ∃ kind, d.Declares kind
  categories : ∀ e ∈ d.rootDefinitions .metrics, ∃ ms, e.2 = .mapping ms

end SourceDocument

theorem DocumentKind.ofSchema?_eq_some_iff {schema : String} {kind : DocumentKind} :
    DocumentKind.ofSchema? schema = some kind ↔ schema = kind.schema := by
  constructor
  · intro h
    have := List.find?_some h
    exact (beq_iff_eq.mp this).symm
  · rintro rfl
    cases kind <;> decide

theorem DocumentKind.schema_injective {k l : DocumentKind} (h : k.schema = l.schema) : k = l := by
  cases k <;> cases l <;> first | rfl | exact absurd h (by decide)

/-- A document opens exactly if it declares a kind. -/
theorem SourceDocument.open?_eq_ok_iff {d : SourceDocument} {kind : DocumentKind}
    {entries : List (String × Node)} :
    d.open? = .ok (kind, entries) ↔
      d.root = .mapping entries ∧ d.schema? = some kind.schema := by
  rw [open?, schema?]
  cases d.root with
  | mapping es =>
    cases (Node.mapping es).get? schemaKey with
    | none => simp
    | some node =>
      cases node with
      | string schema =>
        cases hkind : DocumentKind.ofSchema? schema with
        | none =>
          have hne : schema ≠ kind.schema := fun he => by
            rw [DocumentKind.ofSchema?_eq_some_iff.mpr he] at hkind
            cases hkind
          simp [hkind, Node.asString?, hne]
        | some k =>
          have hiff : schema = kind.schema ↔ k = kind := by
            rw [DocumentKind.ofSchema?_eq_some_iff.mp hkind]
            exact ⟨DocumentKind.schema_injective, congrArg _⟩
          simp [hkind, Node.asString?, hiff, and_comm]
      | _ => simp [Node.asString?]
  | _ => simp

theorem isCategory_of_categoryProblem? {p : Policy} {key : String}
    (h : p.categoryProblem? key = none) : Identifier.isCategory key := by
  rw [Policy.categoryProblem?] at h
  by_contra hnot
  simp [hnot] at h

/-- The findings of a document are those of its definitions. -/
theorem SourceDocument.findings_eq {p : Policy} {d : SourceDocument} {kind : DocumentKind}
    (h : d.Declares kind) :
    d.findings p = (d.rootDefinitions .metrics).flatMap (categoryFindings p d.origin) ++
      d.pingDefinitions.flatMap (pingFindings p d.origin) := by
  obtain ⟨⟨entries, hroot⟩, hschema⟩ := h
  have hne : DocumentKind.metrics.schema ≠ DocumentKind.pings.schema := by decide
  rw [findings, open?_eq_ok_iff.mpr ⟨hroot, hschema⟩, pingDefinitions, rootDefinitions,
    rootDefinitions, hschema, hroot]
  cases kind with
  | metrics => simp [hne, Node.entries]
  | pings => simp [hne.symm, Node.entries]

theorem SourceDocument.declares_of_faultless {p : Policy} {d : SourceDocument}
    (h : ∀ f ∈ d.findings p, f.isFault = false) : ∃ kind, d.Declares kind := by
  cases hopen : d.open? with
  | error problem =>
    rw [findings, hopen] at h
    exact absurd (h _ (List.mem_singleton_self _)) (by simp [Finding.isFault])
  | ok opened =>
    obtain ⟨hroot, hschema⟩ := open?_eq_ok_iff.mp hopen
    exact ⟨opened.1, ⟨opened.2, hroot⟩, hschema⟩

theorem SourceDocument.declares_of_mem_rootDefinitions {d : SourceDocument} {kind : DocumentKind}
    {e : String × Node} (h : e ∈ d.rootDefinitions kind) : d.Declares kind := by
  rw [rootDefinitions] at h
  split at h
  · next hschema =>
    refine ⟨?_, hschema⟩
    cases hroot : d.root with
    | mapping entries => exact ⟨entries, rfl⟩
    | _ => simp [definitions, hroot, Node.entries] at h
  · exact absurd h List.not_mem_nil

/-! ### What a definition reads as -/

def Metric.withoutOrigin (m : Metric) : Metric := { m with origin := "" }

def Ping.withoutOrigin (q : Ping) : Ping := { q with origin := "" }

/-- What a metric definition reads as, wherever it stands. -/
def Policy.metricReading (p : Policy) (t : String × String × Node) : Checked (Option Metric) :=
  readMetric p "" (categoryOfKey t.1) t.2.1 t.2.2

def Policy.pingReading (p : Policy) (e : String × Node) : Checked (Option Ping) :=
  readPing p "" e.1 e.2

section

variable {p : Policy} {origin : String}

theorem Definition.metricOf_origin {d : Definition} {category name : String} {v : Variant} :
    (d.metricOf p origin category name v).problems = (d.metricOf p "" category name v).problems ∧
    (d.metricOf p origin category name v).value.map Metric.withoutOrigin =
      (d.metricOf p "" category name v).value := by
  refine ⟨rfl, ?_⟩
  simp only [metricOf, Checked.value_bind, Checked.value_pure]
  cases d.expires.value with
  | none => rfl
  | some expires =>
    cases (d.metricType p v).value with
    | none => rfl
    | some type =>
      cases (d.string .description).value with
      | none => rfl
      | some description => cases (d.stores v (some type)).value <;> rfl

theorem Definition.pingOf_origin {d : Definition} {name : String} :
    (d.pingOf p origin name).problems = (d.pingOf p "" name).problems ∧
    (d.pingOf p origin name).value.map Ping.withoutOrigin = (d.pingOf p "" name).value := by
  refine ⟨rfl, ?_⟩
  simp only [pingOf, Checked.value_bind, Checked.value_pure]
  cases (d.string .description).value with
  | none => rfl
  | some description => cases (d.bool .includeClientId).value <;> rfl

theorem Checked.clean_map {α β : Type} {c : Checked (Option α)} {c' : Checked (Option β)}
    {f : α → β} (hp : c.problems = c'.problems) (hv : c.value.map f = c'.value) :
    c.clean.problems = c'.clean.problems ∧ c.clean.value.map f = c'.clean.value := by
  rw [clean, clean, hp]
  split
  · exact ⟨hp, hv⟩
  · exact ⟨rfl, rfl⟩

/-- Where a metric is defined makes no difference but its origin. -/
theorem readMetric_origin {category name : String} {node : Node} :
    (readMetric p origin category name node).problems =
      (readMetric p "" category name node).problems ∧
    (readMetric p origin category name node).value.map Metric.withoutOrigin =
      (readMetric p "" category name node).value := by
  cases node with
  | mapping d =>
    apply Checked.clean_map
    · simp only [Checked.problems_bind]
      cases (Definition.metricVariant d).value with
      | none => rfl
      | some v => rw [Definition.metricOf_origin.1]
    · simp only [Checked.value_bind]
      cases (Definition.metricVariant d).value with
      | none => rfl
      | some v => exact Definition.metricOf_origin.2
  | _ => exact ⟨rfl, rfl⟩

/-- Where a ping is defined makes no difference but its origin. -/
theorem readPing_origin {name : String} {node : Node} :
    (readPing p origin name node).problems = (readPing p "" name node).problems ∧
    (readPing p origin name node).value.map Ping.withoutOrigin =
      (readPing p "" name node).value := by
  cases node with
  | mapping d => exact Checked.clean_map Definition.pingOf_origin.1 Definition.pingOf_origin.2
  | _ => exact ⟨rfl, rfl⟩

/-! ### The findings of a definition -/

theorem Checked.findings_eq {α : Type} {c : Checked (Option α)} {location : Location}
    {keep : Option (α → Finding)} (h : c.problems = []) :
    c.findings location keep = (keep.bind fun finding => c.value.map finding).toList := by
  rw [Checked.findings, h]
  rfl

/-- Findings without problems come from a definition without problems. -/
theorem Checked.problems_eq_nil_of_findings {α : Type} {c : Checked (Option α)}
    {location : Location} {keep : Option (α → Finding)}
    (h : ∀ f ∈ c.findings location keep, f.isFault = false) : c.problems = [] := by
  rw [List.eq_nil_iff_forall_not_mem]
  intro problem hproblem
  have hmem : Finding.fault ⟨location, problem⟩ ∈ c.findings location keep :=
    List.mem_append_left _ (List.mem_map_of_mem hproblem)
  exact absurd (h _ hmem) (by simp [Finding.isFault])

/-- What is kept of a definition is no fault. -/
theorem Checked.isFault_of_mem_kept {α : Type} {c : Checked (Option α)}
    {keep : Option (α → Finding)} (hkeep : ∀ f ∈ keep, ∀ a, (f a).isFault = false) {f : Finding}
    (h : f ∈ (keep.bind fun f => c.value.map f).toList) : f.isFault = false := by
  obtain ⟨k, hk, h⟩ := Option.bind_eq_some_iff.mp (Option.mem_toList.mp h)
  obtain ⟨a, -, rfl⟩ := Option.map_eq_some_iff.mp h
  exact hkeep k hk a

theorem isFault_of_keptMetric {location : Location} {accepted : Bool} {f : Metric → Finding}
    (h : f ∈ if accepted then some (Finding.metric location) else none) (m : Metric) :
    (f m).isFault = false := by
  cases accepted with
  | false => cases h
  | true => exact Option.some.inj h ▸ rfl

theorem isFault_of_keptPing {location : Location} {f : Ping → Finding}
    (h : f ∈ some (Finding.ping location)) (q : Ping) : (f q).isFault = false :=
  Option.some.inj h ▸ rfl

/-- A metric definition without problems is found as one metric. -/
theorem metricFindings_eq (origin : String) {key : String} {e : String × Node}
    (h : (p.metricReading (key, e)).problems = []) :
    ∃ m, metricFindings p origin key true e = [.metric (.metric key e.1) m] ∧
      (p.metricReading (key, e)).value = some m.withoutOrigin := by
  have horigin : (readMetric p origin (categoryOfKey key) e.1 e.2).problems = [] :=
    readMetric_origin.1.trans h
  obtain ⟨m, hm, -⟩ := readMetric_isSome horigin
  refine ⟨m, ?_, ?_⟩
  · rw [metricFindings, Checked.findings_eq horigin, hm]
    rfl
  · rw [Policy.metricReading, ← readMetric_origin.2, hm]
    rfl

theorem faultless_metricFindings_iff {key : String} {e : String × Node} :
    (∀ f ∈ metricFindings p origin key true e, f.isFault = false) ↔
      (p.metricReading (key, e)).problems = [] := by
  constructor
  · intro h
    exact readMetric_origin.1.symm.trans (Checked.problems_eq_nil_of_findings h)
  · intro h
    obtain ⟨m, hfindings, -⟩ := metricFindings_eq origin h
    rw [hfindings]
    simp [Finding.isFault]

/-- A ping definition without problems is found as one ping. -/
theorem pingFindings_eq (origin : String) {e : String × Node} (h : (p.pingReading e).problems = []) :
    ∃ q, pingFindings p origin e = [.ping (.ping e.1) q] ∧
      (p.pingReading e).value = some q.withoutOrigin := by
  have horigin : (readPing p origin e.1 e.2).problems = [] := readPing_origin.1.trans h
  obtain ⟨q, hq, -⟩ := readPing_isSome horigin
  refine ⟨q, ?_, ?_⟩
  · rw [pingFindings, Checked.findings_eq horigin, hq]
    rfl
  · rw [Policy.pingReading, ← readPing_origin.2, hq]
    rfl

theorem faultless_pingFindings_iff {e : String × Node} :
    (∀ f ∈ pingFindings p origin e, f.isFault = false) ↔ (p.pingReading e).problems = [] := by
  constructor
  · intro h
    exact readPing_origin.1.symm.trans (Checked.problems_eq_nil_of_findings h)
  · intro h
    obtain ⟨q, hfindings, -⟩ := pingFindings_eq origin h
    rw [hfindings]
    simp [Finding.isFault]

/-- The findings of a category under an accepted key are those of its metrics. -/
theorem categoryFindings_eq {key : String} {ms : List (String × Node)}
    (h : p.categoryProblem? key = none) :
    categoryFindings p origin (key, .mapping ms) = ms.flatMap (metricFindings p origin key true) := by
  simp [categoryFindings, h]

theorem faultless_categoryFindings_iff {e : String × Node} :
    (∀ f ∈ categoryFindings p origin e, f.isFault = false) ↔
      p.categoryProblem? e.1 = none ∧ (∃ ms, e.2 = .mapping ms) ∧
      ∀ m ∈ e.2.entries, (p.metricReading (e.1, m)).problems = [] := by
  obtain ⟨key, node⟩ := e
  cases hflaw : p.categoryProblem? key with
  | some problem =>
    have hmem : Finding.fault ⟨.document origin, problem⟩ ∈
        categoryFindings p origin (key, node) := by
      simp [categoryFindings, hflaw]
    refine iff_of_false (fun h => ?_) (by simp)
    exact absurd (h _ hmem) (by simp [Finding.isFault])
  | none =>
    cases node with
    | mapping ms =>
      simp only [categoryFindings_eq hflaw, List.forall_mem_flatMap, faultless_metricFindings_iff,
        Node.entries, true_and]
      exact ⟨fun h => ⟨⟨ms, rfl⟩, h⟩, fun h => h.2⟩
    | _ => simp [categoryFindings, hflaw, Finding.isFault]

end

/-! ### Documents without problems -/

/-- Nothing is wrong with the document or with any of its definitions on its own. -/
structure SourceDocument.Flawless (p : Policy) (d : SourceDocument) : Prop where
  shape : d.WellShaped
  categories : ∀ key ∈ d.categoryKeys, p.categoryProblem? key = none
  metrics : ∀ t ∈ d.metricDefinitions, (p.metricReading t).problems = []
  pings : ∀ e ∈ d.pingDefinitions, (p.pingReading e).problems = []

theorem SourceDocument.faultless_findings_iff {p : Policy} {d : SourceDocument} :
    (∀ f ∈ d.findings p, f.isFault = false) ↔ d.Flawless p := by
  constructor
  · intro h
    obtain ⟨kind, hkind⟩ := declares_of_faultless h
    simp only [findings_eq hkind, List.forall_mem_append, List.forall_mem_flatMap,
      faultless_categoryFindings_iff, faultless_pingFindings_iff] at h
    refine ⟨⟨⟨kind, hkind⟩, fun e he => (h.1 e he).2.1⟩, ?_, ?_, h.2⟩
    · exact List.forall_mem_map.mpr fun e he => (h.1 e he).1
    · rw [metricDefinitions, List.forall_mem_flatMap]
      exact fun e he => List.forall_mem_map.mpr (h.1 e he).2.2
  · rintro ⟨⟨⟨kind, hkind⟩, hshape⟩, hcategories, hmetrics, hpings⟩
    rw [categoryKeys, List.forall_mem_map] at hcategories
    rw [metricDefinitions, List.forall_mem_flatMap] at hmetrics
    simp only [findings_eq hkind, List.forall_mem_append, List.forall_mem_flatMap,
      faultless_categoryFindings_iff, faultless_pingFindings_iff]
    exact ⟨fun e he => ⟨hcategories e he, hshape e he, List.forall_mem_map.mp (hmetrics e he)⟩,
      hpings⟩

/-- The findings hold exactly what the definitions read as, in this order. -/
structure Holds (p : Policy) (fs : List Finding) (metrics : List (String × String × Node))
    (pings : List (String × Node)) : Prop where
  metrics : (modelOf fs).metrics.map Metric.withoutOrigin =
    metrics.filterMap fun t => (p.metricReading t).value
  pings : (modelOf fs).pings.map Ping.withoutOrigin =
    pings.filterMap fun e => (p.pingReading e).value

namespace Holds

variable {p : Policy}

theorem append {fs gs : List Finding} {ms ns : List (String × String × Node)}
    {ps qs : List (String × Node)} (h : Holds p fs ms ps) (h' : Holds p gs ns qs) :
    Holds p (fs ++ gs) (ms ++ ns) (ps ++ qs) := by
  constructor
  · rw [List.filterMap_append, ← h.metrics, ← h'.metrics]
    simp only [modelOf, List.filterMap_append, List.map_append]
  · rw [List.filterMap_append, ← h.pings, ← h'.pings]
    simp only [modelOf, List.filterMap_append, List.map_append]

theorem flatMap {α : Type} {l : List α} {f : α → List Finding}
    {metrics : α → List (String × String × Node)} {pings : α → List (String × Node)}
    (h : ∀ a ∈ l, Holds p (f a) (metrics a) (pings a)) :
    Holds p (l.flatMap f) (l.flatMap metrics) (l.flatMap pings) := by
  induction l with
  | nil => exact ⟨rfl, rfl⟩
  | cons a l ih =>
    simp only [List.flatMap_cons]
    exact (h a List.mem_cons_self).append (ih fun b hb => h b (List.mem_cons_of_mem a hb))

end Holds

section

variable {p : Policy} {origin : String}

theorem holds_metricFindings (origin : String) {key : String} {e : String × Node}
    (h : (p.metricReading (key, e)).problems = []) :
    Holds p (metricFindings p origin key true e) [(key, e)] [] := by
  obtain ⟨m, hfindings, hm⟩ := metricFindings_eq origin h
  rw [hfindings]
  exact ⟨by simp [modelOf, Finding.metric?, hm], rfl⟩

theorem holds_pingFindings (origin : String) {e : String × Node} (h : (p.pingReading e).problems = []) :
    Holds p (pingFindings p origin e) [] [e] := by
  obtain ⟨q, hfindings, hq⟩ := pingFindings_eq origin h
  rw [hfindings]
  exact ⟨rfl, by simp [modelOf, Finding.ping?, hq]⟩

theorem flatMap_nil {α β : Type} (l : List α) : l.flatMap (fun _ => ([] : List β)) = [] :=
  List.flatMap_eq_nil_iff.mpr fun _ _ => rfl

/-- The findings of a document without problems are its definitions. -/
theorem SourceDocument.holds_findings {d : SourceDocument} (h : d.Flawless p) :
    Holds p (d.findings p) d.metricDefinitions d.pingDefinitions := by
  obtain ⟨⟨⟨kind, hkind⟩, hshape⟩, hcategories, hmetrics, hpings⟩ := h
  rw [categoryKeys, List.forall_mem_map] at hcategories
  rw [metricDefinitions, List.forall_mem_flatMap] at hmetrics
  have hcategory : ∀ e ∈ d.rootDefinitions .metrics, Holds p (categoryFindings p d.origin e)
      (e.2.entries.map (e.1, ·)) [] := by
    intro e he
    obtain ⟨ms, hms⟩ := hshape e he
    have hproblems := List.forall_mem_map.mp (hmetrics e he)
    obtain ⟨key, node⟩ := e
    subst hms
    have := Holds.flatMap fun m hm => holds_metricFindings d.origin (hproblems m hm)
    rwa [flatMap_nil, ← List.map_eq_flatMap, ← categoryFindings_eq (hcategories _ he)] at this
  have hping : ∀ e ∈ d.pingDefinitions, Holds p (pingFindings p d.origin e) [] [e] :=
    fun e he => holds_pingFindings d.origin (hpings e he)
  rw [findings_eq hkind]
  simpa [metricDefinitions, flatMap_nil] using
    (Holds.flatMap hcategory).append (Holds.flatMap hping)

end

/-! ### Sets of documents -/

def metricKey (t : String × String × Node) : String × String := (categoryOfKey t.1, t.2.1)

def metricDefinitionsOf (documents : List SourceDocument) : List (String × String × Node) :=
  documents.flatMap SourceDocument.metricDefinitions

def pingDefinitionsOf (documents : List SourceDocument) : List (String × Node) :=
  documents.flatMap SourceDocument.pingDefinitions

section

variable {p : Policy} {documents : List SourceDocument}

theorem holds_findingsOf (h : ∀ d ∈ documents, d.Flawless p) :
    Holds p (findingsOf p documents) (metricDefinitionsOf documents)
      (pingDefinitionsOf documents) :=
  Holds.flatMap fun d hd => SourceDocument.holds_findings (h d hd)

theorem metricReading_key {t : String × String × Node} (h : (p.metricReading t).problems = []) :
    (p.metricReading t).value.map Metric.key = some (metricKey t) := by
  obtain ⟨m, hm, hcategory, hname⟩ := readMetric_isSome h
  rw [Policy.metricReading, hm, Option.map_some, Metric.key, hcategory, hname]
  rfl

theorem pingReading_name {e : String × Node} (h : (p.pingReading e).problems = []) :
    (p.pingReading e).value.map (·.name) = some e.1 := by
  obtain ⟨q, hq, hname⟩ := readPing_isSome h
  rw [Policy.pingReading, hq, Option.map_some, hname]

/-- Metric definitions of flawless documents stand under accepted keys. -/
theorem categoryProblem?_of_mem (h : ∀ d ∈ documents, d.Flawless p) {t : String × String × Node}
    (ht : t ∈ metricDefinitionsOf documents) : p.categoryProblem? t.1 = none := by
  obtain ⟨d, hd, ht⟩ := List.mem_flatMap.mp ht
  obtain ⟨e, he, hte⟩ := List.mem_flatMap.mp ht
  obtain ⟨_, -, rfl⟩ := List.mem_map.mp hte
  exact (h d hd).categories e.1 (List.mem_map_of_mem he)

/-- Documents without problems give one metric for every metric definition, in order. -/
theorem metrics_findingsOf (h : ∀ d ∈ documents, d.Flawless p) :
    (modelOf (findingsOf p documents)).metrics.map Metric.key =
      (metricDefinitionsOf documents).map metricKey := by
  have hreading : ∀ t ∈ metricDefinitionsOf documents,
      (p.metricReading t).value.map Metric.key = some (metricKey t) :=
    List.forall_mem_flatMap.mpr fun d hd t ht => metricReading_key ((h d hd).metrics t ht)
  calc (modelOf (findingsOf p documents)).metrics.map Metric.key
      = ((modelOf (findingsOf p documents)).metrics.map Metric.withoutOrigin).map Metric.key := by
        rw [List.map_map]
        rfl
    _ = (metricDefinitionsOf documents).filterMap fun t =>
          (p.metricReading t).value.map Metric.key := by
        rw [(holds_findingsOf h).metrics, List.map_filterMap]
    _ = (metricDefinitionsOf documents).map metricKey := by
        rw [List.filterMap_congr hreading, List.filterMap_eq_map']

/-- Documents without problems give one ping for every ping definition, in order. -/
theorem pings_findingsOf (h : ∀ d ∈ documents, d.Flawless p) :
    (modelOf (findingsOf p documents)).pings.map (·.name) =
      (pingDefinitionsOf documents).map (·.1) := by
  have hreading : ∀ e ∈ pingDefinitionsOf documents,
      (p.pingReading e).value.map (·.name) = some e.1 :=
    List.forall_mem_flatMap.mpr fun d hd e he => pingReading_name ((h d hd).pings e he)
  calc (modelOf (findingsOf p documents)).pings.map (·.name)
      = ((modelOf (findingsOf p documents)).pings.map Ping.withoutOrigin).map (·.name) := by
        rw [List.map_map]
        rfl
    _ = (pingDefinitionsOf documents).filterMap fun e =>
          (p.pingReading e).value.map (·.name) := by
        rw [(holds_findingsOf h).pings, List.map_filterMap]
    _ = (pingDefinitionsOf documents).map (·.1) := by
        rw [List.filterMap_congr hreading, List.filterMap_eq_map']

/-- Documents are accepted exactly if each is flawless and no name is defined twice. -/
theorem acceptable_findingsOf_iff :
    Acceptable (findingsOf p documents) ↔
      (∀ d ∈ documents, d.Flawless p) ∧
      ((metricDefinitionsOf documents).map metricKey).Nodup ∧
      ((pingDefinitionsOf documents).map (·.1)).Nodup := by
  have hfaultless : (∀ f ∈ findingsOf p documents, f.isFault = false) ↔
      ∀ d ∈ documents, d.Flawless p := by
    rw [findingsOf, List.forall_mem_flatMap]
    exact forall₂_congr fun d _ => SourceDocument.faultless_findings_iff
  constructor
  · rintro ⟨hfindings, hmetrics, hpings⟩
    have h := hfaultless.mp hfindings
    rw [metrics_findingsOf h] at hmetrics
    rw [pings_findingsOf h] at hpings
    exact ⟨h, hmetrics, hpings⟩
  · rintro ⟨h, hmetrics, hpings⟩
    refine ⟨hfaultless.mpr h, ?_, ?_⟩
    · rwa [metrics_findingsOf h]
    · rwa [pings_findingsOf h]

end

/-! ### Documents of given definitions -/

def SourceDocument.ofEntries (origin : String) (kind : DocumentKind)
    (entries : List (String × Node)) : SourceDocument :=
  ⟨origin, .mapping ((schemaKey, .string kind.schema) :: entries)⟩

theorem SourceDocument.wellShaped_ofEntries {origin : String} {kind : DocumentKind}
    {entries : List (String × Node)}
    (h : kind = .metrics → ∀ e ∈ entries, ∃ ms, e.2 = .mapping ms) :
    (ofEntries origin kind entries).WellShaped := by
  have hschema : (ofEntries origin kind entries).schema? = some kind.schema := by
    simp [schema?, ofEntries, Node.get?, Node.asMapping?, Node.asString?]
  refine ⟨⟨kind, ⟨_, rfl⟩, hschema⟩, fun e he => ?_⟩
  rw [rootDefinitions, hschema] at he
  split_ifs at he with hkind
  · have hmetrics := DocumentKind.schema_injective (Option.some.inj hkind)
    rw [definitions, List.mem_filter] at he
    rcases List.mem_cons.mp he.1 with rfl | hmem
    · exact absurd he.2 (by simp [isDefinitionKey])
    · exact h hmetrics e hmem
  · exact absurd he List.not_mem_nil

def sampleCounter (description : String) : Node :=
  .mapping [("type", .string "counter"), ("description", .string description),
    ("bugs", .list [.integer 1]), ("notification_emails", .list [.string "a@example.com"]),
    ("expires", .string "never")]

def samplePing (description : String) : Node :=
  .mapping [("description", .string description), ("include_client_id", .bool true),
    ("bugs", .list [.integer 1]), ("notification_emails", .list [.string "a@example.com"])]

end TelemetryBindings
