import Mathlib.Data.Set.List
import TelemetryBindings.Proofs.WellFormed

/-!
# Repeated keys

A document keeps the keys of a mapping as its author wrote them, repeated ones included. In a model
that was built no definition repeats an attribute, an extra key or a reason, so every extra key and
every reason is the one that was declared. Within an extra key the description may be repeated: it
is the only field, and the last one counts.
-/
namespace TelemetryBindings

def Definition.declared (d : Definition) (a : Attribute) : List (String × Node) :=
  (d.filter (·.1 == a.key)).flatMap (·.2.entries)

structure Definition.KeysApart (d : Definition) : Prop where
  attributes : (d.map (·.1)).Nodup
  keys : ∀ a ∈ [Attribute.extraKeys, .reasons], ((d.declared a).map (·.1)).Nodup

/-- No mapping of the definition repeats a key. -/
structure Definition.Unrepeated (d : Definition) : Prop extends d.KeysApart where
  fields : ∀ e ∈ d.declared .extraKeys, (e.2.entries.map (·.1)).Nodup

/-- A mapping that repeats a description with each of the texts. -/
def Node.descriptions (texts : List String) : Node :=
  .mapping (texts.map fun text => ("description", .string text))

def definitionsOf (documents : List SourceDocument) : List Definition :=
  (metricDefinitionsOf documents).map (·.2.2.entries) ++
    (pingDefinitionsOf documents).map (·.2.entries)

/-- The extra keys are the declared ones, each with its last description. -/
def Metric.KeepsLast (m : Metric) (t : String × String × Node) : Prop :=
  ∀ extraKeys, m.type = .event extraKeys →
    List.Forall₂ (fun kept e =>
        kept.1 = e.1 ∧ ∃ earlier, e.2 = .descriptions (earlier ++ [kept.2]))
      extraKeys.entries (Definition.declared t.2.2.entries .extraKeys)

def Ping.KeepsAll (q : Ping) (e : String × Node) : Prop :=
  List.Forall₂ (fun kept e => kept.1 = e.1 ∧ e.2 = .string kept.2)
    q.reasons.entries (Definition.declared e.2.entries .reasons)

namespace Definition

variable {d : Definition} {p : Policy} {a : Attribute} {v : Variant}

/-! ### Attributes -/

/-- A definition without problems declares under an attribute what its first entry holds. -/
theorem declared_eq (h : (checkSchema v d).problems = []) :
    d.declared a = ((d.find? a).map Node.entries).getD [] := by
  have hnodup := nodup_keys_of_checkSchema h
  rw [declared, find?]
  clear h
  induction d with
  | nil => rfl
  | cons e rest ih =>
    rw [List.map_cons, List.nodup_cons] at hnodup
    by_cases hkey : e.1 = a.key
    · have hrest : rest.filter (·.1 == a.key) = [] := by
        refine List.filter_eq_nil_iff.mpr fun other hother hsame => hnodup.1 ?_
        rw [hkey, ← beq_iff_eq.mp hsame]
        exact List.mem_map_of_mem hother
      simp [hkey, hrest]
    · simpa [hkey] using ih hnodup.2

/-- A definition without problems has no attribute that its type does not have. -/
theorem find?_eq_none (h : (checkSchema v d).problems = []) (ha : v.permits a = false) :
    d.find? a = none := by
  have hpermitted := (keyProblems_eq_nil_iff.mp (List.append_eq_nil_iff.mp h).1).2
  rw [find?, Option.map_eq_none_iff, List.find?_eq_none]
  intro e he hkey
  have := (hpermitted e.1 (List.mem_map_of_mem he)).2
  simp [beq_iff_eq.mp hkey, Attribute.ofWord?_key, ha] at this

/-! ### Keys that become identifiers -/

section

variable {what : Subject} {maxLength : Nat}
  {description : String → Node → Checked (Option String)} {repeated : String → Problem}

/-- Keys that are added without problems are the given ones under their descriptions. -/
theorem entries_foldlM_addKey (hd : ∀ key node, description key node ≠ pure none)
    {entries : List (String × Node)} {m m' : OrderedMap String}
    (h : entries.foldlM (addKey p what maxLength description repeated) m = pure m') :
    ∃ added, m'.entries = m.entries ++ added ∧
      List.Forall₂ (fun kept e => kept.1 = e.1 ∧ description e.1 e.2 = pure (some kept.2))
        added entries := by
  induction entries generalizing m with
  | nil =>
    have hsame : m = m' := congrArg Checked.value h
    exact ⟨[], by rw [hsame, List.append_nil], .nil⟩
  | cons e rest ih =>
    rw [List.foldlM_cons, Checked.bind_eq_pure_iff] at h
    obtain ⟨inserted, hadd, hrest⟩ := h
    obtain ⟨-, ⟨hnone, -⟩ | ⟨text, htext, hinsert⟩⟩ := addKey_eq_pure hadd
    · exact absurd hnone (hd _ _)
    · obtain ⟨added, hentries, hadded⟩ := ih hrest
      refine ⟨(e.1, text) :: added, ?_, .cons ⟨rfl, htext⟩ hadded⟩
      rw [hentries, OrderedMap.entries_insert hinsert, List.append_assoc]
      rfl

theorem entries_keyedTexts (hschema : (checkSchema v d).problems = [])
    (hd : ∀ key node, description key node ≠ pure none) {m : OrderedMap String}
    (h : d.keyedTexts a p what maxLength description repeated = pure m) :
    List.Forall₂ (fun kept e => kept.1 = e.1 ∧ description e.1 e.2 = pure (some kept.2))
      m.entries (d.declared a) := by
  rw [declared_eq hschema]
  rw [keyedTexts] at h
  split at h
  · next hfind =>
    obtain rfl : OrderedMap.empty = m := congrArg Checked.value h
    rw [hfind]
    exact .nil
  · next entries hfind =>
    obtain ⟨m', hfold, h⟩ := Checked.bind_eq_pure_iff.mp h
    obtain rfl : m' = m := congrArg Checked.value h
    obtain ⟨added, hentries, hadded⟩ := entries_foldlM_addKey hd hfold
    rw [hfind, hentries]
    exact hadded
  · cases congrArg Checked.problems h

theorem keyedTexts_eq_empty (hschema : (checkSchema v d).problems = [])
    (ha : v.permits a = false) :
    d.keyedTexts a p what maxLength description repeated = pure .empty := by
  rw [keyedTexts, find?_eq_none hschema ha]

theorem nodup_declared (hschema : (checkSchema v d).problems = [])
    (hd : ∀ key node, description key node ≠ pure none) {m : OrderedMap String}
    (h : d.keyedTexts a p what maxLength description repeated = pure m) :
    ((d.declared a).map (·.1)).Nodup := by
  -- The keys are distinct even in camel case, and they are the declared ones.
  have hkeys : m.keys = (d.declared a).map (·.1) := by
    rw [← List.forall₂_eq_eq_eq, OrderedMap.keys, List.forall₂_map_left_iff,
      List.forall₂_map_right_iff]
    exact (entries_keyedTexts hschema hd h).imp fun _ _ h => h.1
  rw [← hkeys]
  exact (nodup_camel_keyedTexts h).of_map

end

/-! ### Descriptions -/

theorem extraKeyProblem?_eq_none_iff {key : String} {e : String × Node} :
    extraKeyProblem? key e = none ↔ ∃ text, ("description", Node.string text) = e := by
  obtain ⟨field, node⟩ := e
  by_cases hfield : field = "description"
  · cases node <;> simp [extraKeyProblem?, hfield]
  · simp [extraKeyProblem?, hfield, Ne.symm hfield]

theorem lastDescription?_descriptions (texts : List String) :
    lastDescription? (texts.map fun text => ("description", .string text)) = texts.getLast? := by
  simp [lastDescription?, List.filterMap_map, Node.asString?]

/-- Without problems an extra key has descriptions and nothing else, and reads as the last. -/
theorem extraKeyDescription_eq_pure_iff {key : String} {node : Node} {text? : Option String} :
    extraKeyDescription key node = pure text? ↔
      ∃ earlier text, text? = some text ∧ node = .descriptions (earlier ++ [text]) := by
  constructor
  · intro h
    obtain ⟨hproblems, hvalue⟩ := Checked.eq_pure_iff.mp h
    cases node with
    | mapping entries =>
      obtain ⟨hfields, hmissing⟩ := List.append_eq_nil_iff.mp hproblems
      have hrange : entries ∈
          Set.range (List.map fun text => ("description", Node.string text)) := by
        rw [Set.range_list_map]
        intro e he
        exact extraKeyProblem?_eq_none_iff.mp (List.filterMap_eq_nil_iff.mp hfields e he)
      obtain ⟨texts, rfl⟩ := hrange
      rw [extraKeyDescription, lastDescription?_descriptions] at hvalue
      -- An extra key without a description is reported, so there is a last one.
      rcases List.eq_nil_or_concat' texts with rfl | ⟨earlier, text, rfl⟩
      · simp at hmissing
      · exact ⟨earlier, text, hvalue.symm.trans List.getLast?_concat, rfl⟩
    | _ => cases hproblems
  · rintro ⟨earlier, text, rfl, rfl⟩
    refine Checked.eq_pure_iff.mpr ⟨List.append_eq_nil_iff.mpr ⟨?_, ?_⟩, ?_⟩
    · refine List.filterMap_eq_nil_iff.mpr (List.forall_mem_map.mpr fun t _ => ?_)
      exact extraKeyProblem?_eq_none_iff.mpr ⟨t, rfl⟩
    · simp
    · exact (lastDescription?_descriptions _).trans List.getLast?_concat

theorem extraKeyDescription_ne_pure_none (key : String) (node : Node) :
    extraKeyDescription key node ≠ pure none := by
  intro h
  obtain ⟨_, _, ⟨⟩, -⟩ := extraKeyDescription_eq_pure_iff.mp h

theorem reasonDescription_eq_pure_iff {code : String} {node : Node} {text? : Option String} :
    reasonDescription code node = pure text? ↔ ∃ text, text? = some text ∧ node = .string text := by
  cases node with
  | string text => simp [reasonDescription, Checked.eq_pure_iff, eq_comm]
  | _ => simp [reasonDescription, Checked.eq_pure_iff]

theorem reasonDescription_ne_pure_none (code : String) (node : Node) :
    reasonDescription code node ≠ pure none := by
  intro h
  obtain ⟨_, ⟨⟩, -⟩ := reasonDescription_eq_pure_iff.mp h

/-! ### Definitions -/

def Described (d : Definition) : Prop :=
  ∀ e ∈ d.declared .extraKeys, ∃ earlier text, e.2 = .descriptions (earlier ++ [text])

theorem keys_descriptions (texts : List String) :
    (Node.descriptions texts).entries.map (·.1) = List.replicate texts.length "description" := by
  rw [Node.descriptions, Node.entries, List.map_map]
  exact List.map_const'

/-- Among descriptions a key is repeated exactly where a second one is given. -/
theorem unrepeated_iff (hkeys : d.KeysApart) (hdescribed : d.Described) :
    d.Unrepeated ↔ ∀ e ∈ d.declared .extraKeys, ∃ text, e.2 = .descriptions [text] := by
  constructor
  · intro h e he
    obtain ⟨earlier, text, hnode⟩ := hdescribed e he
    have hnodup := h.fields e he
    rw [hnode, keys_descriptions, List.nodup_replicate, List.length_append] at hnodup
    obtain rfl : earlier = [] := by simpa using hnodup
    exact ⟨text, hnode⟩
  · intro h
    refine ⟨hkeys, fun e he => ?_⟩
    obtain ⟨text, hnode⟩ := h e he
    rw [hnode]
    exact List.nodup_singleton _

theorem permits_extraKeys_iff : v.permits .extraKeys ↔ v = .event := by
  cases v <;> decide

theorem permits_reasons_iff : v.permits .reasons ↔ v = .ping := by
  cases v <;> decide

theorem keysApart_of_read {extraKeys reasons : OrderedMap String}
    (hschema : (checkSchema v d).problems = []) (hextraKeys : d.extraKeys p = pure extraKeys)
    (hreasons : d.reasons p = pure reasons) : d.KeysApart := by
  refine ⟨nodup_keys_of_checkSchema hschema, fun a ha => ?_⟩
  rcases List.mem_pair.mp ha with rfl | rfl
  · exact nodup_declared hschema extraKeyDescription_ne_pure_none hextraKeys
  · exact nodup_declared hschema reasonDescription_ne_pure_none hreasons

theorem forall₂_extraKeys {extraKeys : OrderedMap String}
    (hschema : (checkSchema v d).problems = []) (h : d.extraKeys p = pure extraKeys) :
    List.Forall₂ (fun kept e =>
        kept.1 = e.1 ∧ ∃ earlier, e.2 = .descriptions (earlier ++ [kept.2]))
      extraKeys.entries (d.declared .extraKeys) := by
  refine (entries_keyedTexts hschema extraKeyDescription_ne_pure_none h).imp
    fun kept e hkept => ⟨hkept.1, ?_⟩
  obtain ⟨earlier, text, htext, hnode⟩ := extraKeyDescription_eq_pure_iff.mp hkept.2
  exact ⟨earlier, Option.some.inj htext ▸ hnode⟩

theorem described_of_read {extraKeys : OrderedMap String}
    (hschema : (checkSchema v d).problems = []) (h : d.extraKeys p = pure extraKeys) :
    d.Described := by
  have hboth : List.Forall₂ (fun e kept =>
      (∃ earlier text, e.2 = .descriptions (earlier ++ [text])) ∧ kept.1 = e.1)
      (d.declared .extraKeys) extraKeys.entries :=
    .flip ((forall₂_extraKeys hschema h).imp
      fun kept e ⟨hkey, earlier, hnode⟩ => ⟨⟨earlier, kept.2, hnode⟩, hkey⟩)
  exact ((List.forall₂_and_left _ _).mp hboth).1

section

variable {origin category name : String}

namespace GivesMetric

variable {m : Metric}

theorem exists_extraKeys (h : d.GivesMetric p origin category name v m) :
    ∃ extraKeys, d.extraKeys p = pure extraKeys := by
  by_cases hevent : v.permits .extraKeys
  · obtain rfl := permits_extraKeys_iff.mp hevent
    obtain ⟨extraKeys, hread, -⟩ := Checked.bind_eq_pure_iff.mp h.type
    exact ⟨extraKeys, hread⟩
  · exact ⟨.empty, keyedTexts_eq_empty (congrArg Checked.problems h.schema)
      (Bool.eq_false_of_not_eq_true hevent)⟩

theorem keepsLast (h : d.GivesMetric p origin category name v m) (hv : v.isMetric) (key : String) :
    m.KeepsLast (key, name, .mapping d) := by
  intro extraKeys hm
  exact forall₂_extraKeys (congrArg Checked.problems h.schema) (h.extraKeys_eq hv hm)

theorem apart (h : d.GivesMetric p origin category name v m) (hv : v.isMetric) :
    d.KeysApart ∧ d.Described := by
  have hschema : (checkSchema v d).problems = [] := congrArg Checked.problems h.schema
  have hforeign : v.permits .reasons = false := by
    refine Bool.eq_false_of_not_eq_true fun hreasons => ?_
    rw [permits_reasons_iff.mp hreasons] at hv
    cases hv
  -- Whatever the type, extra keys and reasons can be read: those it does not have are empty.
  obtain ⟨extraKeys, hread⟩ := h.exists_extraKeys
  exact ⟨keysApart_of_read hschema hread (keyedTexts_eq_empty hschema hforeign),
    described_of_read hschema hread⟩

end GivesMetric

namespace GivesPing

variable {q : Ping}

theorem keepsAll (h : d.GivesPing p origin name q) : q.KeepsAll (name, .mapping d) := by
  refine (entries_keyedTexts (congrArg Checked.problems h.schema) reasonDescription_ne_pure_none
    h.reasons).imp fun kept e hkept => ⟨hkept.1, ?_⟩
  obtain ⟨text, htext, hnode⟩ := reasonDescription_eq_pure_iff.mp hkept.2
  exact Option.some.inj htext ▸ hnode

theorem apart (h : d.GivesPing p origin name q) : d.KeysApart ∧ d.Described := by
  have hschema : (checkSchema .ping d).problems = [] := congrArg Checked.problems h.schema
  have hextraKeys : d.extraKeys p = pure .empty := keyedTexts_eq_empty hschema rfl
  exact ⟨keysApart_of_read hschema hextraKeys h.reasons, described_of_read hschema hextraKeys⟩

end GivesPing

end

end Definition

/-! ### Documents -/

section

variable {p : Policy} {documents : List SourceDocument}

theorem apart_of_mem (hf : ∀ d ∈ documents, d.Flawless p) {d : Definition}
    (hd : d ∈ definitionsOf documents) : d.KeysApart ∧ d.Described := by
  rcases List.mem_append.mp hd with hd | hd
  · obtain ⟨⟨key, name, node⟩, ht, rfl⟩ := List.mem_map.mp hd
    have hproblems := (flawless_iff.mp hf).2.2.1 _ ht
    obtain ⟨m, hm, -⟩ := readMetric_isSome hproblems
    obtain ⟨d, v, rfl, hv, hgives⟩ := givesMetric_of_readMetric hproblems hm
    exact hgives.apart hv
  · obtain ⟨⟨name, node⟩, he, rfl⟩ := List.mem_map.mp hd
    have hproblems := (flawless_iff.mp hf).2.2.2 _ he
    obtain ⟨q, hq, -⟩ := readPing_isSome hproblems
    obtain ⟨d, rfl, hgives⟩ := givesPing_of_readPing hproblems hq
    exact hgives.apart

/-- Whatever was built, no definition repeats an attribute, an extra key or a reason, and extra keys
and reasons are kept as declared. Only a description within an extra key may be repeated, and the
last one is kept. -/
theorem keysApart_buildModel {model : Model} (h : buildModel p documents = .ok model) :
    (∀ d ∈ definitionsOf documents, d.KeysApart ∧
      (d.Unrepeated ↔ ∀ e ∈ d.declared .extraKeys, ∃ text, e.2 = .descriptions [text])) ∧
    List.Forall₂ Metric.KeepsLast model.metrics (metricDefinitionsOf documents) ∧
    List.Forall₂ Ping.KeepsAll model.pings (pingDefinitionsOf documents) := by
  obtain ⟨ha, rfl⟩ := buildModel_eq_ok_iff.mp h
  have hf := (acceptable_findingsOf_iff.mp ha).1
  refine ⟨fun d hd => ?_, ?_, ?_⟩
  · obtain ⟨hkeys, hdescribed⟩ := apart_of_mem hf hd
    exact ⟨hkeys, Definition.unrepeated_iff hkeys hdescribed⟩
  · refine (forall₂_metricReading hf).imp fun m ⟨key, name, node⟩ ⟨ht, hm⟩ => ?_
    obtain ⟨d, v, rfl, hv, hgives⟩ :=
      givesMetric_of_readMetric ((flawless_iff.mp hf).2.2.1 _ ht) hm
    exact hgives.keepsLast hv key
  · refine (forall₂_pingReading hf).imp fun q ⟨name, node⟩ ⟨he, hq⟩ => ?_
    obtain ⟨d, rfl, hgives⟩ := givesPing_of_readPing ((flawless_iff.mp hf).2.2.2 _ he) hq
    exact hgives.keepsAll

end

/-- An event whose extra key is described twice, and a ping with two reasons. -/
def tabDocuments : List SourceDocument :=
  [SourceDocument.ofEntries "m.yaml" .metrics
    [("nav", .mapping [
      ("open", .mapping [("type", .string "event"), ("description", .string "Opened."),
        ("bugs", .list [.integer 1]), ("notification_emails", .list [.string "a@example.com"]),
        ("expires", .string "never"),
        ("extra_keys", .mapping [("tab", .descriptions ["The tab.", "The window."])])])])],
  SourceDocument.ofEntries "p.yaml" .pings
    [("crash", .mapping [("description", .string "Crashes."), ("include_client_id", .bool true),
      ("bugs", .list [.integer 1]), ("notification_emails", .list [.string "a@example.com"]),
      ("reasons", .mapping [("fatal", .string "It ended."), ("hang", .string "It hung.")])])]]

theorem keysApart_buildModel_tab :
    ∃ model, buildModel ⟨{}, none⟩ tabDocuments = .ok model ∧
      (∀ d ∈ definitionsOf tabDocuments, d.KeysApart) ∧
      List.Forall₂ Metric.KeepsLast model.metrics (metricDefinitionsOf tabDocuments) ∧
      List.Forall₂ Ping.KeepsAll model.pings (pingDefinitionsOf tabDocuments) ∧
      model.metrics.map (·.type) = [.event ⟨[("tab", "The window.")]⟩] ∧
      model.pings.map (·.reasons) = [⟨[("fatal", "It ended."), ("hang", "It hung.")]⟩] := by
  have hbuilt : (buildModel ⟨{}, none⟩ tabDocuments).toOption.map
      (fun model => (model.metrics.map (·.type), model.pings.map (·.reasons))) =
      some ([.event ⟨[("tab", "The window.")]⟩],
        [⟨[("fatal", "It ended."), ("hang", "It hung.")]⟩]) := by
    set_option maxRecDepth 4000 in decide
  cases h : buildModel ⟨{}, none⟩ tabDocuments with
  | error errors => simp [h, Except.toOption] at hbuilt
  | ok model =>
    obtain ⟨hdefinitions, hmetrics, hpings⟩ := keysApart_buildModel h
    simp only [h, Except.toOption, Option.map_some, Option.some.injEq, Prod.mk.injEq] at hbuilt
    exact ⟨model, rfl, fun d hd => (hdefinitions d hd).1, hmetrics, hpings, hbuilt⟩

/-- An extra key that is described twice is accepted. -/
theorem repeated_description_accepted :
    ¬ ∀ (p : Policy) (documents : List SourceDocument) (model : Model),
      buildModel p documents = .ok model → ∀ d ∈ definitionsOf documents, d.Unrepeated := by
  intro hclaim
  have hok : (buildModel ⟨{}, none⟩ tabDocuments).isOk = true := by
    set_option maxRecDepth 4000 in decide
  obtain ⟨model, hmodel⟩ := exists_eq_ok_of_isOk hok
  have hrepeats : ¬ ∀ d ∈ definitionsOf tabDocuments, ∀ e ∈ d.declared .extraKeys,
      (e.2.entries.map (·.1)).Nodup := by
    decide
  exact hrepeats fun d hd => (hclaim _ _ model hmodel d hd).fields

end TelemetryBindings
