import Mathlib.Data.List.Forall2
import TelemetryBindings.Proofs.Definitions
import TelemetryBindings.Proofs.PolicyRules

/-!
# What expiry settings change

Expiry settings are asked for once, when a metric is read, and decide nothing but whether it is
disabled. Settings that expire more find the same errors in the same documents, and give the same
model with more of its metrics disabled.
-/
namespace TelemetryBindings

theorem Date.before_trans {a b c : Date} (hab : a.before b) (hbc : b.before c) : a.before c := by
  simp only [before, Bool.or_eq_true, Bool.and_eq_true, beq_iff_eq, decide_eq_true_eq] at *
  omega

/-- Each setting is absent from the first options, or present in both and no later in the first. -/
structure Options.ExpiresWithin (o o' : Options) : Prop where
  version : ∀ v ∈ o.expireByVersion, ∃ v' ∈ o'.expireByVersion, v ≤ v'
  date : ∀ day ∈ o.expirationDate, ∃ day' ∈ o'.expirationDate, day = day' ∨ day.before day'

/-- What has expired under some options has expired under all that expire more. -/
theorem Expiry.isExpired_mono {o o' : Options} (h : o.ExpiresWithin o') {e : Expiry}
    (he : e.isExpired o) : e.isExpired o' := by
  cases e with
  | never => exact he
  | expired => rfl
  | date day =>
    obtain ⟨cutoff, hcutoff, hbefore⟩ := (Option.any_eq_true ..).mp he
    obtain ⟨cutoff', hcutoff', hle⟩ := h.date cutoff hcutoff
    refine (Option.any_eq_true ..).mpr ⟨cutoff', hcutoff', ?_⟩
    rcases hle with rfl | hle
    · exact hbefore
    · exact Date.before_trans hbefore hle
  | version major =>
    obtain ⟨current, hcurrent, hmajor⟩ := (Option.any_eq_true ..).mp he
    obtain ⟨current', hcurrent', hle⟩ := h.version current hcurrent
    refine (Option.any_eq_true ..).mpr ⟨current', hcurrent', ?_⟩
    exact decide_eq_true (Nat.le_trans (of_decide_eq_true hmajor) hle)

/-- The second metric is the first, except that it may be disabled where the first is not. -/
structure Metric.Disables (m m' : Metric) : Prop where
  same : m' = { m with disabled := m'.disabled }
  disabled : m.disabled → m'.disabled

/-! ### Metrics that are disabled at most -/

structure Checked.Pairs {α β : Type} (R : α → β → Prop) (c : Checked (Option α))
    (c' : Checked (Option β)) : Prop where
  problems : c.problems = c'.problems
  value : Option.Rel R c.value c'.value

theorem Checked.Pairs.clean {α β : Type} {R : α → β → Prop} {c : Checked (Option α)}
    {c' : Checked (Option β)} (h : c.Pairs R c') : c.clean.Pairs R c'.clean := by
  rw [Checked.clean, Checked.clean, ← h.problems]
  split
  · exact h
  · exact ⟨h.problems ▸ rfl, .none⟩

inductive Finding.Disables : Finding → Finding → Prop
  | same (f : Finding) : Disables f f
  | metric (location : Location) {m m' : Metric} : m.Disables m' →
    Disables (.metric location m) (.metric location m')

theorem Finding.Disables.all_same (fs : List Finding) : List.Forall₂ Disables fs fs :=
  List.forall₂_same.mpr fun f _ => .same f

section

variable {p q : Policy}

theorem Definition.metricOf_pairs (hrules : p.SameRules q)
    (h : p.options.ExpiresWithin q.options) (d : Definition) (origin category name : String)
    (v : Variant) :
    (d.metricOf p origin category name v).Pairs Metric.Disables
      (d.metricOf q origin category name v) := by
  refine ⟨?_, ?_⟩
  · simp only [metricOf, Checked.problems_bind, hrules.checkMetricName, hrules.checkSupport,
      hrules.metricType, Checked.problems_pure]
  · simp only [metricOf, Checked.value_bind, Checked.value_pure, hrules.metricType]
    cases d.expires.value with
    | none => exact .none
    | some expires =>
      cases (d.metricType q v).value with
      | none => exact .none
      | some type =>
        cases (d.string .description).value with
        | none => exact .none
        | some description =>
          cases (d.stores v (some type)).value with
          | none => exact .none
          | some stores =>
            refine .some ⟨rfl, fun hdisabled => ?_⟩
            rcases Bool.or_eq_true_iff.mp hdisabled with hswitch | hexpired
            · exact Bool.or_eq_true_iff.mpr (.inl hswitch)
            · exact Bool.or_eq_true_iff.mpr (.inr (Expiry.isExpired_mono h hexpired))

theorem readMetric_pairs (hrules : p.SameRules q) (h : p.options.ExpiresWithin q.options)
    (origin category name : String) (node : Node) :
    (readMetric p origin category name node).Pairs Metric.Disables
      (readMetric q origin category name node) := by
  cases node with
  | mapping d =>
    refine Checked.Pairs.clean ?_
    cases hvariant : (Definition.metricVariant d).value with
    | none =>
      refine ⟨?_, ?_⟩
      · simp only [Checked.problems_bind, hvariant]
      · simp only [Checked.value_bind, hvariant]
        exact .none
    | some v =>
      have hmetric := Definition.metricOf_pairs hrules h d origin category name v
      refine ⟨?_, ?_⟩
      · simp only [Checked.problems_bind, hvariant, hmetric.problems]
      · simp only [Checked.value_bind, hvariant]
        exact hmetric.value
  | _ => exact ⟨rfl, .none⟩

/-- Findings are listed one for one. -/
theorem Checked.Pairs.findings {c c' : Checked (Option Metric)} (h : c.Pairs Metric.Disables c')
    (location : Location) (accepted : Bool) :
    List.Forall₂ Finding.Disables
      (c.findings location (if accepted then some (.metric location) else none))
      (c'.findings location (if accepted then some (.metric location) else none)) := by
  obtain ⟨value, problems⟩ := c
  obtain ⟨value', problems'⟩ := c'
  obtain ⟨rfl, hvalue⟩ : problems = problems' ∧ Option.Rel Metric.Disables value value' :=
    ⟨h.problems, h.value⟩
  refine List.rel_append (Finding.Disables.all_same _) ?_
  cases accepted with
  | false => exact .nil
  | true =>
    cases hvalue with
    | none => exact .nil
    | some hm => exact .cons (.metric location hm) .nil

theorem disables_categoryFindings (hrules : p.SameRules q)
    (h : p.options.ExpiresWithin q.options) (origin : String) (e : String × Node) :
    List.Forall₂ Finding.Disables (categoryFindings p origin e) (categoryFindings q origin e) := by
  obtain ⟨key, node⟩ := e
  simp only [categoryFindings, hrules.categoryProblem?]
  refine List.rel_append (Finding.Disables.all_same _) ?_
  cases node with
  | mapping ms =>
    refine List.rel_flatMap (List.forall₂_same.mpr fun _ _ => rfl) ?_
    rintro ⟨name, node⟩ _ rfl
    exact (readMetric_pairs hrules h origin _ name node).findings (.metric key name) _
  | _ => exact Finding.Disables.all_same _

theorem disables_findingsOf (hrules : p.SameRules q) (h : p.options.ExpiresWithin q.options)
    (documents : List SourceDocument) :
    List.Forall₂ Finding.Disables (findingsOf p documents) (findingsOf q documents) := by
  refine List.rel_flatMap (List.forall₂_same.mpr fun _ _ => rfl) ?_
  rintro d _ rfl
  simp only [SourceDocument.findings, hrules.pingFindings]
  cases d.open? with
  | error problem => exact Finding.Disables.all_same _
  | ok opened =>
    obtain ⟨kind, entries⟩ := opened
    cases kind with
    | metrics =>
      refine List.rel_flatMap (List.forall₂_same.mpr fun _ _ => rfl) ?_
      rintro e _ rfl
      exact disables_categoryFindings hrules h d.origin e
    | pings => exact Finding.Disables.all_same _

end

/-! ### Builds under two settings -/

/-- The builders recorded the same, but that metrics may be disabled in the second. -/
structure Builder.Disables (b b' : Builder) : Prop where
  errors : b.errors = b'.errors
  seenMetrics : b.seenMetrics = b'.seenMetrics
  seenPings : b.seenPings = b'.seenPings
  metrics : List.Forall₂ Metric.Disables b.model.metrics b'.model.metrics
  pings : b.model.pings = b'.model.pings

theorem Metric.Disables.key_eq {m m' : Metric} (h : m.Disables m') : m'.key = m.key := by
  rw [h.same]
  rfl

namespace Builder.Disables

variable {b b' : Builder}

theorem fail (h : b.Disables b') (e : SchemaError) : (b.fail e).Disables (b'.fail e) :=
  { h with errors := congrArg (· ++ [e]) h.errors }

/-- Both builders keep a metric, or both refuse it. -/
theorem metric (h : b.Disables b') (location : Location) {m m' : Metric} (hm : m.Disables m') :
    (b.record (.metric location m)).Disables (b'.record (.metric location m')) := by
  have hkey : (m'.category, m'.name) = (m.category, m.name) := hm.key_eq
  rw [record, record, hkey, ← h.seenMetrics]
  split
  · exact h.fail _
  · exact { h with
      seenMetrics := rfl
      metrics := List.rel_append h.metrics (.cons hm .nil) }

theorem same (h : b.Disables b') (f : Finding) : (b.record f).Disables (b'.record f) := by
  cases f with
  | fault e => exact h.fail e
  | metric location m => exact h.metric location ⟨rfl, id⟩
  | ping location q =>
    rw [record, record, ← h.seenPings]
    split
    · exact h.fail _
    · exact { h with
        seenPings := rfl
        pings := congrArg (· ++ [q]) h.pings }

theorem record {f f' : Finding} (h : b.Disables b') (hf : f.Disables f') :
    (b.record f).Disables (b'.record f') := by
  cases hf with
  | same f => exact h.same f
  | metric location hm => exact h.metric location hm

end Builder.Disables

/-- Options that reserve the same names, of which the second expire whatever the first do, fail to
build the same documents with the same errors. Where they succeed, the pings are the same, and so
are the metrics one by one, except that more of them may be disabled. -/
theorem buildModel_expiresWithin {o o' : Options} (hreserved : o.allowReserved = o'.allowReserved)
    (h : o.ExpiresWithin o') (target : Option Target) (documents : List SourceDocument) :
    (∃ errors, buildModel ⟨o, target⟩ documents = .error errors ∧
      buildModel ⟨o', target⟩ documents = .error errors) ∨
    ∃ model model', buildModel ⟨o, target⟩ documents = .ok model ∧
      buildModel ⟨o', target⟩ documents = .ok model' ∧
      List.Forall₂ Metric.Disables model.metrics model'.metrics ∧ model.pings = model'.pings := by
  have hrules : Policy.SameRules ⟨o, target⟩ ⟨o', target⟩ := ⟨hreserved, rfl, rfl⟩
  have hstart : Builder.Disables { policy := ⟨o, target⟩ } { policy := ⟨o', target⟩ } :=
    ⟨rfl, rfl, rfl, .nil, rfl⟩
  have hbuilders := List.rel_foldl (P := Builder.Disables) (R := Finding.Disables)
    (fun _ _ hb _ _ hf => hb.record hf) hstart (disables_findingsOf hrules h documents)
  obtain ⟨s, hs⟩ := Builder.addDocuments_eq { policy := ⟨o, target⟩ } documents
  obtain ⟨s', hs'⟩ := Builder.addDocuments_eq { policy := ⟨o', target⟩ } documents
  rw [buildModel, buildModel, hs, hs', Builder.build, Builder.build]
  simp only [← hbuilders.errors]
  split
  · exact .inr ⟨_, _, rfl, rfl, hbuilders.metrics, hbuilders.pings⟩
  · exact .inl ⟨_, rfl, rfl⟩

def expiringDocuments : List SourceDocument :=
  let counter (expires : Node) : Node :=
    .mapping [("type", .string "counter"), ("description", .string "Taps."),
      ("bugs", .list [.integer 1]), ("notification_emails", .list [.string "a@example.com"]),
      ("expires", expires)]
  [SourceDocument.ofEntries "m.yaml" .metrics
    [("nav", .mapping [("old", counter (.integer 3)), ("new", counter (.string "2029-12-31")),
      ("live", counter (.string "never"))])]]

def laterSettings : Options where
  expireByVersion := some 3
  expirationDate := some ⟨2030, 1, 1, by decide⟩

/-- Version 2 alone expires nothing here; version 3 and the year 2030 expire two metrics. -/
theorem buildModel_expiresWithin_later :
    ∃ model model', buildModel ⟨{ expireByVersion := some 2 }, none⟩ expiringDocuments = .ok model ∧
      buildModel ⟨laterSettings, none⟩ expiringDocuments = .ok model' ∧
      List.Forall₂ Metric.Disables model.metrics model'.metrics ∧
      model.metrics.map (·.disabled) = [false, false, false] ∧
      model'.metrics.map (·.disabled) = [true, true, false] := by
  have hearly : (buildModel ⟨{ expireByVersion := some 2 }, none⟩ expiringDocuments).toOption.map
      (fun model => model.metrics.map (·.disabled)) = some [false, false, false] := by
    set_option maxRecDepth 4000 in decide
  have hlate : (buildModel ⟨laterSettings, none⟩ expiringDocuments).toOption.map
      (fun model => model.metrics.map (·.disabled)) = some [true, true, false] := by
    set_option maxRecDepth 4000 in decide
  have hwithin : Options.ExpiresWithin { expireByVersion := some 2 } laterSettings := by
    constructor <;> simp [laterSettings]
  have hreserved : Options.allowReserved { expireByVersion := some 2 } =
      laterSettings.allowReserved := rfl
  rcases buildModel_expiresWithin hreserved hwithin none expiringDocuments with
    ⟨errors, herrors, -⟩ | ⟨model, model', hmodel, hmodel', hmetrics, -⟩
  · simp [herrors, Except.toOption] at hearly
  · rw [hmodel] at hearly
    rw [hmodel'] at hlate
    exact ⟨model, model', hmodel, hmodel', hmetrics, Option.some.inj hearly,
      Option.some.inj hlate⟩

end TelemetryBindings
