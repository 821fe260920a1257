import TelemetryBindings.Proofs.Admission
import TelemetryBindings.Proofs.Arrangement
import TelemetryBindings.Proofs.Insertions

/-!
# Models are well formed

What every model that was built satisfies, whatever the documents and the target: the grammars and
the lengths of all names, that names are distinct wherever they have to be, that somebody can be
asked about every definition, and when a metric is disabled. Readers go on after a problem with part
of a value, so each of these holds only because a definition with any problem is given up as a
whole.
-/
namespace TelemetryBindings

open Identifier

structure Metric.WellFormed (o : Options) (m : Metric) : Prop where
  name : isIdentifier m.name 30
  category : m.category = "" ∨ isCategory m.category
  unreserved : o.allowReserved = false → m.category ≠ "" ∧ ¬ m.category.startsWith "glean"
  stores : m.sendInPings.Nodup ∧ ∀ store ∈ m.sendInPings, isPingName store ∧ store ≠ "default"
  labels : ∀ inner labels, m.type = .labeled inner (some labels) →
    labels.Nodup ∧ ∀ label ∈ labels, isLabel label
  extraKeys : ∀ extraKeys, m.type = .event extraKeys →
    (extraKeys.keys.map Text.camel).Nodup ∧ ∀ key ∈ extraKeys.keys, isIdentifier key 40
  bugs : m.bugs ≠ []
  notificationEmails : m.notificationEmails ≠ []

structure Ping.WellFormed (o : Options) (q : Ping) : Prop where
  name : isPingName q.name
  unreserved : o.allowReserved = false → ¬ isBuiltin q.name
  reasons : (q.reasons.keys.map Text.camel).Nodup ∧ ∀ code ∈ q.reasons.keys, isIdentifier code 30
  bugs : q.bugs ≠ []
  notificationEmails : q.notificationEmails ≠ []

/-- What holds of every model that was built under the options. -/
structure Model.WellFormed (o : Options) (model : Model) : Prop where
  metrics : ∀ m ∈ model.metrics, m.WellFormed o
  pings : ∀ q ∈ model.pings, q.WellFormed o
  metricKeys : (model.metrics.map Metric.key).Nodup
  pingNames : (model.pings.map (·.name)).Nodup

/-- The metric is disabled as its definition and the expiry settings say. -/
structure Metric.Follows (o : Options) (m : Metric) (t : String × String × Node) : Prop where
  key : m.key = metricKey t
  expires : ∃ node, ("expires", node) ∈ t.2.2.entries ∧ Expiry.parse? node = some m.expires
  disabled : m.disabled ↔ ("disabled", .bool true) ∈ t.2.2.entries ∨ m.expires.isExpired o

namespace Definition

variable {d : Definition} {p : Policy} {a : Attribute}

/-! ### Attributes that are given once -/

/-- Nothing is wrong with the keys exactly if they are distinct, also from those before, and each is
the key of a permitted attribute. -/
theorem keyProblems_eq_nil_iff {v : Variant} {seen : List String} :
    keyProblems v seen d = [] ↔ (d.map (·.1)).Nodup ∧
      ∀ key ∈ d.map (·.1), key ∉ seen ∧ (Vocabulary.ofWord? key).any v.permits := by
  induction d generalizing seen with
  | nil => simp [keyProblems]
  | cons e rest ih =>
    obtain ⟨key, node⟩ := e
    rw [keyProblems, List.map_cons, List.nodup_cons, List.forall_mem_cons]
    by_cases hseen : key ∈ seen
    · simp [hseen]
    · by_cases hpermitted : (Vocabulary.ofWord? key).any v.permits
      · simp only [List.contains_iff_mem, hseen, hpermitted, if_true, if_false, ih, List.mem_cons]
        grind
      · simp [hseen, hpermitted]

theorem nodup_keys_of_checkSchema {v : Variant} (h : (checkSchema v d).problems = []) :
    (d.map (·.1)).Nodup :=
  (keyProblems_eq_nil_iff.mp (List.append_eq_nil_iff.mp h).1).1

/-- The first entry of an attribute is its only one. -/
theorem find?_eq_some_iff_mem {v : Variant} (h : (checkSchema v d).problems = []) {node : Node} :
    d.find? a = some node ↔ (a.key, node) ∈ d :=
  OrderedMap.get?_eq_some_iff (m := ⟨d⟩) (nodup_keys_of_checkSchema h)

/-! ### Lists -/

theorem texts_ne_nil {allowIntegers : Bool} {items : List Node} (hitems : items ≠ [])
    (h : (texts a allowIntegers (.list items)).problems = []) :
    (texts a allowIntegers (.list items)).value ≠ [] := by
  rw [texts, List.map_eq_nil_iff, List.filter_eq_nil_iff] at h
  obtain ⟨item, hitem⟩ := List.exists_mem_of_ne_nil items hitems
  obtain ⟨text, htext⟩ := Option.ne_none_iff_exists'.mp fun hnone =>
    h item hitem (Option.isNone_iff_eq_none.mpr hnone)
  exact List.ne_nil_of_mem (List.mem_filterMap.mpr ⟨item, hitem, htext⟩)

/-- A list that is there and has no problem has a text. -/
theorem nonEmptyTexts_ne_nil {allowIntegers : Bool} (hf : (d.find? a).isSome)
    (h : (d.nonEmptyTexts a allowIntegers).problems = []) :
    (d.nonEmptyTexts a allowIntegers).value ≠ [] := by
  obtain ⟨node, hnode⟩ := Option.isSome_iff_exists.mp hf
  rw [nonEmptyTexts, hnode] at h ⊢
  match node with
  | .list [] => simp at h
  | .list (item :: items) =>
    exact texts_ne_nil (List.cons_ne_nil item items) (List.append_eq_nil_iff.mp h).1
  | .null | .bool _ | .integer _ | .float _ | .string _ | .mapping _ => simp [texts] at h

theorem distinct_addPing {store : String} (hstore : store ≠ "default") (pings : List String)
    (entry : String) (h : pings.Nodup ∧ ∀ t ∈ pings, t ≠ "default") :
    (addPing store pings entry).value.Nodup ∧
      ∀ t ∈ (addPing store pings entry).value, t ≠ "default" := by
  have hping : (if entry = "default" then store else entry) ≠ "default" := by
    split_ifs with hdefault
    · exact hstore
    · exact hdefault
  by_cases hinvalid : entry ≠ "default" ∧ ¬ isPingName entry
  · rwa [addPing, if_pos hinvalid]
  · simp only [addPing, if_neg hinvalid]
    by_cases hseen : pings.contains (if entry = "default" then store else entry)
    · rwa [if_pos hseen]
    · rw [if_neg hseen]
      refine ⟨h.1.append (List.nodup_singleton _) (List.disjoint_singleton.mpr ?_), ?_⟩
      · simpa using hseen
      · exact List.forall_mem_append.mpr ⟨h.2, List.forall_mem_singleton.mpr hping⟩

theorem distinct_sendInPings {store : String} (hstore : store ≠ "default")
    (h : (d.sendInPings store).problems = []) :
    (d.sendInPings store).value.Nodup ∧ ∀ t ∈ (d.sendInPings store).value, t ≠ "default" := by
  rw [sendInPings] at h ⊢
  cases hfind : d.find? .sendInPings with
  | none => exact ⟨List.nodup_singleton _, List.forall_mem_singleton.mpr hstore⟩
  | some node =>
    rw [hfind] at h
    exact Checked.foldlM_induction
      (P := fun pings => pings.Nodup ∧ ∀ t ∈ pings, t ≠ "default")
      (fun pings entry _ => distinct_addPing hstore pings entry) _
      (List.append_eq_nil_iff.mp h).2 ⟨List.nodup_nil, fun t ht => absurd ht List.not_mem_nil⟩

theorem nodup_addLabel (labels : List String) (label : String) (h : labels.Nodup) :
    (addLabel labels label).value.Nodup := by
  rw [addLabel]
  split
  · exact h
  · split
    · exact h
    · next hseen =>
      refine h.append (List.nodup_singleton _) (List.disjoint_singleton.mpr ?_)
      simpa using hseen

theorem nodup_labels {labels : List String} (hproblems : d.labels.problems = [])
    (h : d.labels.value = some labels) : labels.Nodup := by
  rw [Definition.labels] at hproblems h
  cases hfind : d.find? .labels with
  | none => simp [hfind] at h
  | some node =>
    rw [hfind] at hproblems h
    simp only [Checked.problems_bind, List.append_eq_nil_iff] at hproblems
    exact Option.some.inj h ▸ Checked.foldlM_induction (P := List.Nodup)
      (fun labels label _ => nodup_addLabel labels label) _ hproblems.2.1 List.nodup_nil

/-! ### Keys -/

/-- No collision is reported exactly if the keys are distinct in camel case, also from those
before. -/
theorem collisions_eq_nil_iff {what : Subject} {seen : List (String × String)}
    {keys : List String} :
    collisions what seen keys = [] ↔
      (keys.map Text.camel).Nodup ∧
        ∀ identifier ∈ keys.map Text.camel, seen.lookup identifier = none := by
  induction keys generalizing seen with
  | nil => simp [collisions]
  | cons key rest ih =>
    rw [collisions, List.map_cons, List.nodup_cons, List.forall_mem_cons]
    cases hlookup : seen.lookup (Text.camel key) with
    | some first => exact iff_of_false (List.cons_ne_nil _ _) fun h => Option.some_ne_none _ h.2.1
    | none =>
      simp only [ih, forall_lookup_cons_iff]
      tauto

theorem nodup_camel_keyedTexts {what : Subject} {maxLength : Nat}
    {description : String → Node → Checked (Option String)} {repeated : String → Problem}
    {m : OrderedMap String} (h : d.keyedTexts a p what maxLength description repeated = pure m) :
    (m.keys.map Text.camel).Nodup := by
  obtain ⟨hproblems, rfl⟩ := Checked.eq_pure_iff.mp h
  rw [keyedTexts] at hproblems ⊢
  split at hproblems
  · exact List.nodup_nil
  · simp only [Checked.problems_bind, List.append_eq_nil_iff] at hproblems
    exact (collisions_eq_nil_iff.mp hproblems.2.1).1
  · exact List.nodup_nil

/-! ### Single values -/

/-- A switch is on only if its first value says so. -/
theorem boolOr_false_iff : (d.boolOr a false).value = true ↔ d.find? a = some (.bool true) := by
  rw [boolOr, Checked.value_bind, Checked.value_pure, bool, read]
  cases hfind : d.find? a with
  | none => simp
  | some node => cases node <;> simp [Node.asBool?]

theorem parse?_of_expires {e : Expiry} (h : d.expires.value = some e) :
    ∃ node, d.find? .expires = some node ∧ Expiry.parse? node = some e := by
  rw [expires] at h
  split at h
  · cases h
  · next node hfind =>
    refine ⟨node, hfind, ?_⟩
    cases hparse : Expiry.parse? node with
    | none => simp [hparse] at h
    | some expiry => simpa [hparse] using h

end Definition

/-- The reserved beginning of categories excludes the internal category too. -/
theorem unreserved_of_categoryProblem? {p : Policy} {key : String}
    (h : p.categoryProblem? key = none) (ho : p.options.allowReserved = false) :
    categoryOfKey key ≠ "" ∧ ¬ (categoryOfKey key).startsWith "glean" := by
  have hcategory := isCategory_of_categoryProblem? h
  have hkey : ¬ key.startsWith "glean" := by
    intro hglean
    rw [Policy.categoryProblem?, if_neg (not_not.mpr hcategory)] at h
    simp [Policy.reservesCategory, ho, hglean] at h
  have hinternal : key ≠ "glean.internal.metrics" := by
    rintro rfl
    exact hkey (by simp)
  rw [categoryOfKey, if_neg hinternal]
  exact ⟨ne_empty_of_categoryProblem? h, hkey⟩

namespace Definition

variable {d : Definition} {p : Policy} {origin category key name : String}

/-- A list that is required and was read without problems has a text. -/
theorem ne_nil_of_nonEmptyTexts {v : Variant} {a : Attribute} {allowIntegers : Bool}
    {texts : List String} (hschema : checkSchema v d = pure ()) (ha : a ∈ v.required)
    (h : d.nonEmptyTexts a allowIntegers = pure texts) : texts ≠ [] := by
  obtain ⟨hproblems, rfl⟩ := Checked.eq_pure_iff.mp h
  exact nonEmptyTexts_ne_nil
    (find?_isSome_of_checkSchema (congrArg Checked.problems hschema) ha) hproblems

namespace GivesMetric

variable {v : Variant} {m : Metric}

theorem distinct_stores (h : d.GivesMetric p origin category name v m) :
    m.sendInPings.Nodup ∧ ∀ store ∈ m.sendInPings, store ≠ "default" := by
  have hdefault : v.defaultStore ≠ "default" := by cases v <;> decide
  obtain ⟨hproblems, hstores⟩ := Checked.eq_pure_iff.mp h.stores
  exact hstores ▸ distinct_sendInPings hdefault hproblems

theorem wellFormed (h : d.GivesMetric p origin (categoryOfKey key) name v m) (hv : v.isMetric)
    (hkey : p.categoryProblem? key = none) : m.WellFormed p.options := by
  have hadmitted := h.admitted hv hkey
  have hrequired : ∀ a ∈ Variant.commonRequired, a ∈ v.required := by
    intro a ha
    rw [Variant.required, if_pos hv]
    exact List.mem_append_left _ ha
  constructor
  · exact hadmitted.name.grammar
  · rw [h.category, categoryOfKey]
    split
    · exact Or.inl rfl
    · exact Or.inr (isCategory_of_categoryProblem? hkey)
  · intro ho
    rw [h.category]
    exact unreserved_of_categoryProblem? hkey ho
  · exact ⟨h.distinct_stores.1, fun store hstore =>
      ⟨hadmitted.stores store hstore, h.distinct_stores.2 store hstore⟩⟩
  · intro inner labels hm
    obtain ⟨hproblems, hvalue⟩ := Checked.eq_pure_iff.mp (h.labels_eq hv hm)
    exact ⟨nodup_labels hproblems hvalue, hadmitted.labels inner labels hm⟩
  · exact fun extraKeys hm => ⟨nodup_camel_keyedTexts (h.extraKeys_eq hv hm),
      fun k hk => (hadmitted.keys extraKeys hm k hk).grammar⟩
  · exact ne_nil_of_nonEmptyTexts h.schema (hrequired .bugs (by decide)) h.bugs
  · exact ne_nil_of_nonEmptyTexts h.schema (hrequired .notificationEmails (by decide))
      h.notificationEmails

theorem follows (h : d.GivesMetric p origin (categoryOfKey key) name v m) :
    m.Follows p.options (key, name, .mapping d) := by
  have hschema : (checkSchema v d).problems = [] := congrArg Checked.problems h.schema
  constructor
  · rw [Metric.key, h.category, h.name]
    rfl
  · obtain ⟨node, hfind, hparse⟩ := parse?_of_expires (congrArg Checked.value h.expires)
    exact ⟨node, (find?_eq_some_iff_mem hschema).mp hfind, hparse⟩
  · obtain ⟨switch, hswitch, hdisabled⟩ := h.disabled
    obtain rfl : (d.boolOr .disabled false).value = switch := congrArg Checked.value hswitch
    rw [hdisabled, Bool.or_eq_true, boolOr_false_iff, find?_eq_some_iff_mem hschema]
    rfl

end GivesMetric

theorem GivesPing.wellFormed {q : Ping} (h : d.GivesPing p origin name q) :
    q.WellFormed p.options := by
  have hadmitted := h.admitted
  constructor
  · exact hadmitted.grammar
  · intro ho
    have hunreserved := hadmitted.unreserved
    simp only [Policy.reservesPing, ho, Bool.not_false, Bool.true_and, Bool.or_eq_false_iff]
      at hunreserved
    simp [hunreserved.1]
  · exact ⟨nodup_camel_keyedTexts h.reasons,
      fun code hcode => (hadmitted.reasons code hcode).grammar⟩
  · exact ne_nil_of_nonEmptyTexts h.schema (by decide) h.bugs
  · exact ne_nil_of_nonEmptyTexts h.schema (by decide) h.notificationEmails

end Definition

/-! ### Readings -/

section

variable {p : Policy}

theorem wellFormed_metricReading {t : String × String × Node} {m : Metric}
    (hkey : p.categoryProblem? t.1 = none) (hproblems : (p.metricReading t).problems = [])
    (h : (p.metricReading t).value = some m) : m.WellFormed p.options ∧ m.Follows p.options t := by
  obtain ⟨key, name, node⟩ := t
  obtain ⟨d, v, rfl, hv, hgives⟩ := givesMetric_of_readMetric hproblems h
  exact ⟨hgives.wellFormed hv hkey, hgives.follows⟩

theorem wellFormed_pingReading {e : String × Node} {q : Ping}
    (hproblems : (p.pingReading e).problems = []) (h : (p.pingReading e).value = some q) :
    q.WellFormed p.options := by
  obtain ⟨d, -, hgives⟩ := givesPing_of_readPing hproblems h
  exact hgives.wellFormed

/-- Where a metric is defined makes no difference. -/
theorem Metric.WellFormed.of_withoutOrigin {o : Options} {m : Metric}
    (h : m.withoutOrigin.WellFormed o) : m.WellFormed o :=
  ⟨h.name, h.category, h.unreserved, h.stores, h.labels, h.extraKeys, h.bugs, h.notificationEmails⟩

theorem Metric.Follows.of_withoutOrigin {o : Options} {m : Metric} {t : String × String × Node}
    (h : m.withoutOrigin.Follows o t) : m.Follows o t :=
  ⟨h.key, h.expires, h.disabled⟩

theorem Ping.WellFormed.of_withoutOrigin {o : Options} {q : Ping}
    (h : q.withoutOrigin.WellFormed o) : q.WellFormed o :=
  ⟨h.name, h.unreserved, h.reasons, h.bugs, h.notificationEmails⟩

/-- Lists are paired off where one reads as the other. -/
theorem forall₂_of_map_eq_filterMap {α β γ : Type} {f : α → β} {g : γ → Option β} {l : List α}
    {r : List γ} (h : l.map f = r.filterMap g) (hg : ∀ c ∈ r, (g c).isSome) :
    List.Forall₂ (fun a c => c ∈ r ∧ g c = some (f a)) l r := by
  induction r generalizing l with
  | nil =>
    rw [List.filterMap_nil, List.map_eq_nil_iff] at h
    exact h ▸ .nil
  | cons c r ih =>
    obtain ⟨hc, hr⟩ := List.forall_mem_cons.mp hg
    obtain ⟨b, hb⟩ := Option.isSome_iff_exists.mp hc
    rw [List.filterMap_cons_some hb] at h
    obtain ⟨a, l, rfl, ha, hl⟩ := List.map_eq_cons_iff.mp h
    refine .cons ⟨List.mem_cons_self, by rw [hb, ha]⟩ ?_
    exact (ih hl hr).imp fun a c h => ⟨List.mem_cons_of_mem _ h.1, h.2⟩

/-- The metrics of flawless documents are what their definitions read as, one by one. -/
theorem forall₂_metricReading {D : List SourceDocument} (hf : ∀ d ∈ D, d.Flawless p) :
    List.Forall₂ (fun m t => t ∈ metricDefinitionsOf D ∧
        (p.metricReading t).value = some m.withoutOrigin)
      (modelOf (findingsOf p D)).metrics (metricDefinitionsOf D) := by
  apply forall₂_of_map_eq_filterMap (holds_findingsOf hf).metrics
  intro t ht
  obtain ⟨m, hm, -⟩ := readMetric_isSome ((flawless_iff.mp hf).2.2.1 t ht)
  exact Option.isSome_of_eq_some hm

/-- The pings of flawless documents are what their definitions read as, one by one. -/
theorem forall₂_pingReading {D : List SourceDocument} (hf : ∀ d ∈ D, d.Flawless p) :
    List.Forall₂ (fun q e => e ∈ pingDefinitionsOf D ∧
        (p.pingReading e).value = some q.withoutOrigin)
      (modelOf (findingsOf p D)).pings (pingDefinitionsOf D) := by
  apply forall₂_of_map_eq_filterMap (holds_findingsOf hf).pings
  intro e he
  obtain ⟨q, hq, -⟩ := readPing_isSome ((flawless_iff.mp hf).2.2.2 e he)
  exact Option.isSome_of_eq_some hq

end

/-- Every model that was built is well formed, and its metrics are disabled exactly as their
definitions and the expiry settings say. -/
theorem wellFormed_buildModel {p : Policy} {documents : List SourceDocument} {model : Model}
    (h : buildModel p documents = .ok model) :
    model.WellFormed p.options ∧
    List.Forall₂ (Metric.Follows p.options) model.metrics (metricDefinitionsOf documents) := by
  obtain ⟨ha, rfl⟩ := buildModel_eq_ok_iff.mp h
  have hf := (acceptable_findingsOf_iff.mp ha).1
  have hread : List.Forall₂ (fun m t => m.WellFormed p.options ∧ m.Follows p.options t)
      (modelOf (findingsOf p documents)).metrics (metricDefinitionsOf documents) := by
    refine (forall₂_metricReading hf).imp fun m t ⟨ht, hm⟩ => ?_
    obtain ⟨hwell, hfollows⟩ := wellFormed_metricReading (categoryProblem?_of_mem hf ht)
      ((flawless_iff.mp hf).2.2.1 t ht) hm
    exact ⟨hwell.of_withoutOrigin, hfollows.of_withoutOrigin⟩
  have hmetrics := (List.forall₂_and_left _ _).mp hread
  refine ⟨⟨hmetrics.1, fun q hq => ?_, ha.metrics, ha.pings⟩, hmetrics.2⟩
  have hmem : q.withoutOrigin ∈ (modelOf (findingsOf p documents)).pings.map Ping.withoutOrigin :=
    List.mem_map_of_mem hq
  rw [(holds_findingsOf hf).pings] at hmem
  obtain ⟨e, he, hvalue⟩ := List.mem_filterMap.mp hmem
  exact (wellFormed_pingReading ((flawless_iff.mp hf).2.2.2 e he) hvalue).of_withoutOrigin

def switchedDocuments : List SourceDocument :=
  [SourceDocument.ofEntries "m.yaml" .metrics
    [("nav", .mapping [
      ("off", .mapping [("type", .string "counter"), ("description", .string "Off."),
        ("bugs", .list [.integer 1]), ("notification_emails", .list [.string "a@example.com"]),
        ("expires", .string "never"), ("disabled", .bool true)]),
      ("old", .mapping [("type", .string "event"), ("description", .string "Old."),
        ("bugs", .list [.integer 1]), ("notification_emails", .list [.string "a@example.com"]),
        ("expires", .integer 3), ("send_in_pings", .list [.string "default", .string "metrics"])]),
      ("live", sampleCounter "Live.")])]]

theorem wellFormed_buildModel_switched :
    ∃ model, buildModel ⟨{ expireByVersion := some 3 }, none⟩ switchedDocuments = .ok model ∧
      model.WellFormed { expireByVersion := some 3 } ∧
      List.Forall₂ (Metric.Follows { expireByVersion := some 3 }) model.metrics
        (metricDefinitionsOf switchedDocuments) ∧
      model.metrics.map (·.disabled) = [true, true, false] := by
  have hswitches : (buildModel ⟨{ expireByVersion := some 3 }, none⟩ switchedDocuments).toOption.map
      (fun model => model.metrics.map (·.disabled)) = some [true, true, false] := by
    set_option maxRecDepth 4000 in decide
  cases h : buildModel ⟨{ expireByVersion := some 3 }, none⟩ switchedDocuments with
  | error errors => simp [h, Except.toOption] at hswitches
  | ok model =>
    obtain ⟨hwell, hfollows⟩ := wellFormed_buildModel h
    exact ⟨model, rfl, hwell, hfollows, by simpa [h, Except.toOption] using hswitches⟩

end TelemetryBindings
