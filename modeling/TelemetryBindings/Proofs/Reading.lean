import TelemetryBindings.Definition.Document

/-!
# Reading without problems

A definition is read to the end exactly when no problem is recorded. The schema check reports every
missing attribute that a reader needs, and each reader gives a value for an attribute that is there
or reports why it cannot. So a metric or a ping without problems is never left out.
-/
namespace TelemetryBindings

namespace Checked

variable {α β : Type}

theorem eq_pure_iff {c : Checked α} {a : α} : c = pure a ↔ c.problems = [] ∧ c.value = a := by
  obtain ⟨value, problems⟩ := c
  exact (mk.injEq ..).to_iff.trans and_comm

/-- What is read in steps has no problem if no step has one. -/
theorem bind_eq_pure_iff {x : Checked α} {f : α → Checked β} {b : β} :
    x >>= f = pure b ↔ ∃ a, x = pure a ∧ f a = pure b := by
  simp only [eq_pure_iff, problems_bind, value_bind, List.append_eq_nil_iff]
  grind

end Checked

namespace Definition

variable {d : Definition} {p : Policy} {v : Variant} {a : Attribute}

/-- A required attribute is there if the schema check reports nothing. -/
theorem find?_isSome_of_checkSchema (h : (checkSchema v d).problems = []) (ha : a ∈ v.required) :
    (d.find? a).isSome := by
  have hmissing : missingProblems v d = [] := (List.append_eq_nil_iff.mp h).2
  rw [missingProblems, List.map_eq_nil_iff, List.filter_eq_nil_iff] at hmissing
  simpa [Option.isSome_iff_ne_none] using hmissing a ha

theorem read_isSome {α : Type} {expected : Expected} {view : Node → Option α}
    (h : (d.read a expected view).problems = []) (hf : (d.find? a).isSome) :
    ∃ value, (d.read a expected view).value = some value := by
  obtain ⟨node, hnode⟩ := Option.isSome_iff_exists.mp hf
  rw [read, hnode] at h ⊢
  cases hview : view node with
  | none => simp [hview] at h
  | some value => exact ⟨value, by simp [hview]⟩

theorem word_isSome {α : Type} [Vocabulary α] (h : (d.word α a).problems = [])
    (hf : (d.find? a).isSome) : ∃ value, (d.word α a).value = some value := by
  simp only [word, Checked.problems_bind, List.append_eq_nil_iff, Checked.value_bind] at h ⊢
  obtain ⟨text, htext⟩ := read_isSome h.1 hf
  rw [string, htext] at h ⊢
  cases hword : (Vocabulary.ofWord? text : Option α) with
  | none => simp [hword] at h
  | some value => exact ⟨value, by simp [hword]⟩

theorem expires_isSome (h : d.expires.problems = []) (hf : (d.find? .expires).isSome) :
    ∃ expiry, d.expires.value = some expiry := by
  obtain ⟨node, hnode⟩ := Option.isSome_iff_exists.mp hf
  rw [expires, hnode] at h ⊢
  cases hparse : Expiry.parse? node with
  | none => simp [hparse] at h
  | some expiry => exact ⟨expiry, by simp [hparse]⟩

/-- The bounds of a distribution are read to the end if all of them are there. -/
theorem distributionType_isSome (h : d.distributionType.problems = [])
    (hf : ∀ a ∈ Variant.customDistribution.ownRequired, (d.find? a).isSome) :
    ∃ type, d.distributionType.value = some type ∧ type.variant = .customDistribution := by
  simp only [distributionType, Checked.problems_bind, Checked.value_bind,
    List.append_eq_nil_iff] at h ⊢
  obtain ⟨-, hmax, h⟩ := h
  obtain ⟨rangeMax, hrange⟩ := read_isSome hmax (hf .rangeMax (by decide))
  rw [integer, hrange] at h ⊢
  simp only [Checked.problems_bind, Checked.value_bind, List.append_eq_nil_iff] at h ⊢
  obtain ⟨hcount, h⟩ := h
  obtain ⟨bucketCount, hbuckets⟩ := read_isSome hcount (hf .bucketCount (by decide))
  rw [integer, hbuckets] at h ⊢
  simp only [Checked.problems_bind, Checked.value_bind, List.append_eq_nil_iff] at h ⊢
  obtain ⟨histogram, hhistogram⟩ := word_isSome h.1 (hf .histogramType (by decide))
  rw [hhistogram]
  exact ⟨_, rfl, rfl⟩

/-- The type of a metric is read if the attributes are there that it requires. -/
theorem metricType_isSome (h : (d.metricType p v).problems = []) (hv : v.isMetric)
    (hf : ∀ a ∈ v.ownRequired, (d.find? a).isSome) :
    ∃ type, (d.metricType p v).value = some type ∧ type.variant = v := by
  cases v with
  | customDistribution => exact distributionType_isSome h hf
  | quantity =>
    simp only [metricType, Checked.problems_bind, List.append_eq_nil_iff] at h
    obtain ⟨unit, hunit⟩ := read_isSome h.1 (hf .unit (by decide))
    exact ⟨.quantity unit, by simp [metricType, string, hunit], rfl⟩
  | ping => simp [Variant.isMetric] at hv
  | _ => exact ⟨_, rfl, rfl⟩

/-- A metric definition without problems gives a metric. -/
theorem metricOf_isSome {origin category name : String} (hv : v.isMetric)
    (h : (d.metricOf p origin category name v).problems = []) :
    ∃ m, (d.metricOf p origin category name v).value = some m ∧
      m.category = category ∧ m.name = name := by
  simp only [metricOf, Checked.problems_bind, List.append_eq_nil_iff, Checked.value_bind] at h ⊢
  obtain ⟨hschema, -, -, hdescription, -, -, -, hexpires, -, -, -, htype, -, -⟩ := h
  have hf : ∀ a ∈ v.required, (d.find? a).isSome :=
    fun a ha => find?_isSome_of_checkSchema hschema ha
  simp only [Variant.required, hv, if_true, List.mem_append] at hf
  obtain ⟨description, hdescription⟩ :=
    read_isSome hdescription (hf .description (Or.inl (by decide)))
  obtain ⟨expiry, hexpiry⟩ := expires_isSome hexpires (hf .expires (Or.inl (by decide)))
  obtain ⟨type, htype, -⟩ := metricType_isSome htype hv fun a ha => hf a (Or.inr ha)
  rw [string, hdescription, hexpiry, htype]
  exact ⟨_, rfl, rfl, rfl⟩

/-- A ping definition without problems gives a ping. -/
theorem pingOf_isSome {origin name : String} (h : (d.pingOf p origin name).problems = []) :
    ∃ q, (d.pingOf p origin name).value = some q ∧ q.name = name := by
  simp only [pingOf, Checked.problems_bind, List.append_eq_nil_iff, Checked.value_bind] at h ⊢
  obtain ⟨hschema, -, -, hdescription, hclient, -⟩ := h
  have hf : ∀ a ∈ Variant.ping.required, (d.find? a).isSome :=
    fun a ha => find?_isSome_of_checkSchema hschema ha
  obtain ⟨description, hdescription⟩ := read_isSome hdescription (hf .description (by decide))
  obtain ⟨includeClientId, hclient⟩ := read_isSome hclient (hf .includeClientId (by decide))
  rw [string, hdescription, bool, hclient]
  exact ⟨_, rfl, rfl⟩

/-- A metric and the definition that was read as it without problems. -/
structure GivesMetric (d : Definition) (p : Policy) (origin category name : String) (v : Variant)
    (m : Metric) : Prop where
  schema : checkSchema v d = pure ()
  nameCheck : checkMetricName p name = pure ()
  support : checkSupport p v = pure ()
  category : m.category = category
  name : m.name = name
  origin : m.origin = origin
  description : d.string .description = pure (some m.description)
  bugs : d.bugs = pure m.bugs
  dataReviews : d.stringList .dataReviews = pure m.dataReviews
  notificationEmails : d.nonEmptyStringList .notificationEmails = pure m.notificationEmails
  expires : d.expires = pure (some m.expires)
  lifetime : d.wordOr .lifetime Lifetime.ping = pure m.lifetime
  disabled : ∃ switch, d.boolOr .disabled false = pure switch ∧
    m.disabled = (switch || m.expires.isExpired p.options)
  version : d.version = pure m.version
  type : d.metricType p v = pure (some m.type)
  stores : d.sendInPings v.defaultStore = pure m.sendInPings

structure GivesPing (d : Definition) (p : Policy) (origin name : String) (q : Ping) : Prop where
  schema : checkSchema .ping d = pure ()
  nameCheck : checkPingName p name = pure ()
  support : checkSupport p .ping = pure ()
  name : q.name = name
  origin : q.origin = origin
  description : d.string .description = pure (some q.description)
  includeClientId : d.bool .includeClientId = pure (some q.includeClientId)
  sendIfEmpty : d.boolOr .sendIfEmpty false = pure q.sendIfEmpty
  bugs : d.bugs = pure q.bugs
  dataReviews : d.stringList .dataReviews = pure q.dataReviews
  notificationEmails : d.nonEmptyStringList .notificationEmails = pure q.notificationEmails
  reasons : d.reasons p = pure q.reasons

section

variable {origin category name : String}

/-- A definition reads as a metric without problems exactly if every part of it does. -/
theorem metricOf_eq_pure_iff {m : Metric} :
    d.metricOf p origin category name v = pure (some m) ↔
      d.GivesMetric p origin category name v m := by
  simp only [metricOf, stores, Checked.bind_eq_pure_iff]
  constructor
  · rintro ⟨⟨⟩, hschema, ⟨⟩, hname, ⟨⟩, hsupport, description, hdescription, bugs, hbugs,
      dataReviews, hdataReviews, notificationEmails, hemails, expires, hexpires, lifetime,
      hlifetime, switch, hswitch, version, hversion, type, htype, pings, hpings, hm⟩
    have hvalue := congrArg Checked.value hm
    simp only [Checked.value_pure, Option.bind_eq_bind, Option.bind_eq_some_iff,
      Option.some.injEq] at hvalue
    obtain ⟨expires, rfl, type, rfl, description, rfl, pings, rfl, rfl⟩ := hvalue
    obtain ⟨stores, hstores, hsame⟩ := Checked.bind_eq_pure_iff.mp hpings
    obtain rfl : stores = pings := Option.some.inj (congrArg Checked.value hsame)
    exact ⟨hschema, hname, hsupport, rfl, rfl, rfl, hdescription, hbugs, hdataReviews, hemails,
      hexpires, hlifetime, ⟨switch, hswitch, rfl⟩, hversion, htype, hstores⟩
  · intro h
    obtain ⟨switch, hswitch, hdisabled⟩ := h.disabled
    refine ⟨(), h.schema, (), h.nameCheck, (), h.support, _, h.description, _, h.bugs, _,
      h.dataReviews, _, h.notificationEmails, _, h.expires, _, h.lifetime, switch, hswitch, _,
      h.version, _, h.type, some m.sendInPings, ?_, ?_⟩
    · exact Checked.bind_eq_pure_iff.mpr ⟨_, h.stores, rfl⟩
    · rw [← h.category, ← h.name, ← h.origin]
      simp only [Option.bind_eq_bind, Option.bind_some, ← hdisabled]

/-- A definition reads as a ping without problems exactly if every part of it does. -/
theorem pingOf_eq_pure_iff {q : Ping} :
    d.pingOf p origin name = pure (some q) ↔ d.GivesPing p origin name q := by
  simp only [pingOf, Checked.bind_eq_pure_iff]
  constructor
  · rintro ⟨⟨⟩, hschema, ⟨⟩, hname, ⟨⟩, hsupport, description, hdescription, client, hclient,
      sendIfEmpty, hsendIfEmpty, bugs, hbugs, dataReviews, hdataReviews, notificationEmails,
      hemails, reasons, hreasons, hq⟩
    have hvalue := congrArg Checked.value hq
    simp only [Checked.value_pure, Option.bind_eq_bind, Option.bind_eq_some_iff,
      Option.some.injEq] at hvalue
    obtain ⟨description, rfl, client, rfl, rfl⟩ := hvalue
    exact ⟨hschema, hname, hsupport, rfl, rfl, hdescription, hclient, hsendIfEmpty, hbugs,
      hdataReviews, hemails, hreasons⟩
  · intro h
    refine ⟨(), h.schema, (), h.nameCheck, (), h.support, _, h.description, _,
      h.includeClientId, _, h.sendIfEmpty, _, h.bugs, _, h.dataReviews, _, h.notificationEmails,
      _, h.reasons, ?_⟩
    rw [← h.name, ← h.origin]
    simp only [Option.bind_eq_bind, Option.bind_some]

theorem GivesMetric.variant {m : Metric} (h : d.GivesMetric p origin category name v m)
    (hv : v.isMetric) : m.variant = v := by
  have hrequired : ∀ a ∈ v.ownRequired, (d.find? a).isSome := by
    intro a ha
    apply find?_isSome_of_checkSchema (congrArg Checked.problems h.schema)
    rw [Variant.required, if_pos hv]
    exact List.mem_append_right _ ha
  obtain ⟨hproblems, hvalue⟩ := Checked.eq_pure_iff.mp h.type
  obtain ⟨type, htype, hvariant⟩ := metricType_isSome hproblems hv hrequired
  obtain rfl : type = m.type := Option.some.inj (htype.symm.trans hvalue)
  exact hvariant

/-- The extra keys of an event are read without problems. -/
theorem GivesMetric.extraKeys_eq {m : Metric} {extraKeys : OrderedMap String}
    (h : d.GivesMetric p origin category name v m) (hv : v.isMetric)
    (hm : m.type = .event extraKeys) : d.extraKeys p = pure extraKeys := by
  obtain rfl : Variant.event = v := by rw [← h.variant hv, Metric.variant, hm]; rfl
  obtain ⟨read, hread, htype⟩ := Checked.bind_eq_pure_iff.mp h.type
  have hsame : MetricType.event read = m.type := Option.some.inj (congrArg Checked.value htype)
  rw [hread, MetricType.event.inj (hsame.trans hm)]

/-- The labels of a labeled metric are read without problems. -/
theorem GivesMetric.labels_eq {m : Metric} {inner : LabeledInner} {labels : Option (List String)}
    (h : d.GivesMetric p origin category name v m) (hv : v.isMetric)
    (hm : m.type = .labeled inner labels) : d.labels = pure labels := by
  have hlabeled : d.metricType p v = d.labeledType inner := by
    rw [← h.variant hv, Metric.variant, hm]
    cases inner <;> rfl
  obtain ⟨read, hread, htype⟩ := Checked.bind_eq_pure_iff.mp (hlabeled.symm.trans h.type)
  have hsame : MetricType.labeled inner read = m.type :=
    Option.some.inj (congrArg Checked.value htype)
  rw [hread, (MetricType.labeled.inj (hsame.trans hm)).2]

end

theorem metricVariant_isSome (h : (metricVariant d).problems = []) :
    ∃ v, (metricVariant d).value = some v ∧ v.isMetric := by
  rw [metricVariant] at h ⊢
  split at h
  · simp at h
  · next tag hfind =>
    cases hres : Variant.resolve tag with
    | error cause => simp [hres] at h
    | ok v =>
      by_cases hv : v.isMetric
      · exact ⟨v, by simp [hv], hv⟩
      · simp [hres, hv] at h
  · simp at h

end Definition

theorem Checked.clean_of_problems_eq_nil {α : Type} {c : Checked (Option α)}
    (h : c.clean.problems = []) : c.problems = [] ∧ c.clean = c := by
  rw [Checked.clean] at h ⊢
  by_cases hc : c.problems.isEmpty
  · exact ⟨List.isEmpty_iff.mp hc, if_pos hc⟩
  · rw [if_neg hc] at h
    exact absurd (List.isEmpty_iff.mpr h) hc

/-- A metric is read unless a problem is recorded, and bears the names it is declared under. -/
theorem readMetric_isSome {p : Policy} {origin category name : String} {node : Node}
    (h : (readMetric p origin category name node).problems = []) :
    ∃ m, (readMetric p origin category name node).value = some m ∧
      m.category = category ∧ m.name = name := by
  cases node with
  | mapping d =>
    rw [readMetric] at h ⊢
    obtain ⟨h, hclean⟩ := Checked.clean_of_problems_eq_nil h
    rw [hclean]
    simp only [Checked.problems_bind, List.append_eq_nil_iff, Checked.value_bind] at h ⊢
    obtain ⟨v, hvariant, hv⟩ := Definition.metricVariant_isSome h.1
    rw [hvariant] at h ⊢
    exact Definition.metricOf_isSome hv h.2
  | _ => simp [readMetric] at h

theorem givesMetric_of_readMetric {p : Policy} {origin category name : String} {node : Node}
    {m : Metric} (hproblems : (readMetric p origin category name node).problems = [])
    (h : (readMetric p origin category name node).value = some m) :
    ∃ d v, node = .mapping d ∧ v.isMetric ∧
      Definition.GivesMetric d p origin category name v m := by
  cases node with
  | mapping d =>
    rw [readMetric] at hproblems h
    obtain ⟨hproblems, hclean⟩ := Checked.clean_of_problems_eq_nil hproblems
    rw [hclean] at h
    simp only [Checked.problems_bind, List.append_eq_nil_iff, Checked.value_bind] at hproblems h
    obtain ⟨v, hvariant, hv⟩ := Definition.metricVariant_isSome hproblems.1
    rw [hvariant] at hproblems h
    exact ⟨d, v, rfl, hv,
      Definition.metricOf_eq_pure_iff.mp (Checked.eq_pure_iff.mpr ⟨hproblems.2, h⟩)⟩
  | _ => simp [readMetric] at hproblems

/-- A ping is read unless a problem is recorded, and bears the name it is declared under. -/
theorem readPing_isSome {p : Policy} {origin name : String} {node : Node}
    (h : (readPing p origin name node).problems = []) :
    ∃ q, (readPing p origin name node).value = some q ∧ q.name = name := by
  cases node with
  | mapping d =>
    rw [readPing] at h ⊢
    obtain ⟨h, hclean⟩ := Checked.clean_of_problems_eq_nil h
    rw [hclean]
    exact Definition.pingOf_isSome h
  | _ => simp [readPing] at h

theorem givesPing_of_readPing {p : Policy} {origin name : String} {node : Node} {q : Ping}
    (hproblems : (readPing p origin name node).problems = [])
    (h : (readPing p origin name node).value = some q) :
    ∃ d, node = .mapping d ∧ Definition.GivesPing d p origin name q := by
  cases node with
  | mapping d =>
    rw [readPing] at hproblems h
    obtain ⟨hproblems, hclean⟩ := Checked.clean_of_problems_eq_nil hproblems
    rw [hclean] at h
    exact ⟨d, rfl, Definition.pingOf_eq_pure_iff.mp (Checked.eq_pure_iff.mpr ⟨hproblems, h⟩)⟩
  | _ => simp [readPing] at hproblems

end TelemetryBindings
