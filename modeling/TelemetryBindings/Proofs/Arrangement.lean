import Mathlib.Data.List.Perm.Basic
import TelemetryBindings.Proofs.Compiling

/-!
# The arrangement of definitions

What is compiled depends on the definitions of every category, in their order, and on the ping
definitions, but neither on the documents that hold them nor on the order of the categories.
-/
namespace TelemetryBindings

/-! ### Lists with the same sublists under every key -/

section

variable {α κ : Type} [DecidableEq κ] {key : α → κ} {l l' : List α}

theorem perm_of_filter_key (h : ∀ k, l.filter (key · = k) = l'.filter (key · = k)) :
    l.Perm l' := by
  classical
  rw [List.perm_iff_count]
  intro a
  have hcount := congrArg (List.count a) (h (key a))
  rwa [List.count_filter (by simp), List.count_filter (by simp)] at hcount

/-- A predicate that holds under one key only selects the same elements. -/
theorem filter_eq_of_filter_key {q : α → Bool}
    (h : ∀ k, l.filter (key · = k) = l'.filter (key · = k))
    (hq : ∀ a ∈ l, ∀ b ∈ l, q a → q b → key a = key b) : l.filter q = l'.filter q := by
  have hmem : ∀ a, a ∈ l ↔ a ∈ l' := fun a => (perm_of_filter_key h).mem_iff
  by_cases hex : ∃ a ∈ l, q a
  · obtain ⟨a, ha, hqa⟩ := hex
    have hunder : ∀ b ∈ l, q b = true → key b = key a := fun b hb hqb => hq b hb a ha hqb hqa
    have hsub : ∀ m : List α, (∀ b ∈ m, b ∈ l) →
        m.filter q = (m.filter (key · = key a)).filter q := by
      intro m hm
      rw [List.filter_filter]
      apply List.filter_congr
      intro b hb
      cases hqb : q b with
      | false => rfl
      | true => simp [hunder b (hm b hb) hqb]
    rw [hsub l fun _ => id, h, ← hsub l' fun b hb => (hmem b).mpr hb]
  · have hnone : ∀ a ∈ l, ¬ q a := fun a ha hqa => hex ⟨a, ha, hqa⟩
    rw [List.filter_eq_nil_iff.mpr hnone, eq_comm, List.filter_eq_nil_iff]
    exact fun a ha => hnone a ((hmem a).mpr ha)

end

/-! ### Origins do not show -/

theorem keepsPlace_withoutOrigin : KeepsPlace Instrument.withoutOrigin where
  unitId i := by cases i <;> rfl
  unitKind i := by cases i <;> rfl
  identifier i := by cases i <;> rfl

theorem Target.entry_withoutOrigin (t : Target) (i : Instrument) :
    t.entry i.withoutOrigin = t.entry i := by
  cases t <;> cases i <;> rfl

theorem Kotlin.mentioned_withoutOrigin (k : Kotlin) (i : Instrument) :
    k.mentioned i.withoutOrigin = k.mentioned i := by
  cases i <;> rfl

/-- The file of a unit does not tell where its instruments were defined. -/
theorem Target.renderUnit_withoutOrigin (t : Target) (u : OutputUnit) :
    t.renderUnit (u.map Instrument.withoutOrigin) = t.renderUnit u := by
  have hentry : t.entry ∘ Instrument.withoutOrigin = t.entry := funext t.entry_withoutOrigin
  rw [renderUnit, renderUnit, t.layout_map u Kotlin.mentioned_withoutOrigin, t.fileName_map]
  simp only [OutputUnit.map, List.mapM_map, hentry]

/-! ### Documents with the same definitions -/

/-- The documents name the same categories, define the same metrics in the same order in each of
them, and define the same pings in the same order. -/
structure SameDefinitions (D D' : List SourceDocument) : Prop where
  categories : ∀ key, key ∈ D.flatMap SourceDocument.categoryKeys ↔
    key ∈ D'.flatMap SourceDocument.categoryKeys
  metrics : ∀ key, (metricDefinitionsOf D).filter (·.1 = key) =
    (metricDefinitionsOf D').filter (·.1 = key)
  pings : pingDefinitionsOf D = pingDefinitionsOf D'

theorem SameDefinitions.symm {D D' : List SourceDocument} (h : SameDefinitions D D') :
    SameDefinitions D' D :=
  ⟨fun key => (h.categories key).symm, fun key => (h.metrics key).symm, h.pings.symm⟩

section

variable {p : Policy} {D D' : List SourceDocument}

theorem SameDefinitions.flawless (h : SameDefinitions D D') (hD' : ∀ d ∈ D', d.WellShaped)
    (hf : ∀ d ∈ D, d.Flawless p) : ∀ d ∈ D', d.Flawless p := by
  obtain ⟨-, hcategories, hmetrics, hpings⟩ := flawless_iff.mp hf
  have hperm := perm_of_filter_key h.metrics
  exact flawless_iff.mpr ⟨hD', fun key hkey => hcategories key ((h.categories key).mpr hkey),
    fun t ht => hmetrics t (hperm.mem_iff.mpr ht), h.pings ▸ hpings⟩

theorem SameDefinitions.acceptable (h : SameDefinitions D D') (hD' : ∀ d ∈ D', d.WellShaped)
    (ha : Acceptable (findingsOf p D)) : Acceptable (findingsOf p D') := by
  obtain ⟨hflawless, hmetrics, hpings⟩ := acceptable_findingsOf_iff.mp ha
  refine acceptable_findingsOf_iff.mpr ⟨h.flawless hD' hflawless, ?_, h.pings ▸ hpings⟩
  exact (((perm_of_filter_key h.metrics).map metricKey).nodup_iff).mp hmetrics

theorem ne_empty_of_categoryProblem? {key : String} (h : p.categoryProblem? key = none) :
    key ≠ "" := by
  rintro rfl
  exact absurd (isCategory_of_categoryProblem? h) (by decide)

theorem categoryOfKey_injOn {key key' : String} (hkey : key ≠ "") (hkey' : key' ≠ "")
    (h : categoryOfKey key = categoryOfKey key') : key = key' := by
  rw [categoryOfKey, categoryOfKey] at h
  split_ifs at h with hi hi' hi'
  · rw [hi, hi']
  · exact absurd h.symm hkey'
  · exact absurd h hkey
  · exact h

/-- The kind of the unit decides the category key of a flawless definition. -/
theorem key_eq_of_unitKind (hf : ∀ d ∈ D, d.Flawless p) {t t' : String × String × Node}
    (ht : t ∈ metricDefinitionsOf D) (ht' : t' ∈ metricDefinitionsOf D) {m m' : Metric}
    (hm : (p.metricReading t).value = some m) (hm' : (p.metricReading t').value = some m')
    (h : m.unitKind = m'.unitKind) : t.1 = t'.1 := by
  have hkey : ∀ {s : String × String × Node} {n : Metric}, s ∈ metricDefinitionsOf D →
      (p.metricReading s).value = some n → s.1 ≠ "" ∧ n.category = categoryOfKey s.1 := by
    intro s n hs hn
    refine ⟨ne_empty_of_categoryProblem? (categoryProblem?_of_mem hf hs), ?_⟩
    have := metricReading_key ((flawless_iff.mp hf).2.2.1 s hs)
    rw [hn, Option.map_some, Option.some.injEq] at this
    exact congrArg Prod.fst this
  obtain ⟨hne, hcategory⟩ := hkey ht hm
  obtain ⟨hne', hcategory'⟩ := hkey ht' hm'
  apply categoryOfKey_injOn hne hne'
  rw [← hcategory, ← hcategory']
  simp only [Metric.unitKind] at h
  split_ifs at h with hc hc'
  · rw [hc, hc']
  · exact UnitKind.category.inj h

/-- Documents with the same definitions have the same instruments of every kind, in order. -/
theorem SameDefinitions.filter_instruments (h : SameDefinitions D D')
    (hf : ∀ d ∈ D, d.Flawless p) (hf' : ∀ d ∈ D', d.Flawless p) (kind : UnitKind) :
    ((instrumentsOf p D).map Instrument.withoutOrigin).filter (·.unitKind = kind) =
      ((instrumentsOf p D').map Instrument.withoutOrigin).filter (·.unitKind = kind) := by
  have hfilter : (metricDefinitionsOf D).filter
        (fun t => (p.metricReading t).value.any (·.unitKind = kind)) =
      (metricDefinitionsOf D').filter
        (fun t => (p.metricReading t).value.any (·.unitKind = kind)) := by
    apply filter_eq_of_filter_key h.metrics
    intro t ht t' ht' hkind hkind'
    obtain ⟨m, hm, hmk⟩ := (Option.any_eq_true _ _).mp hkind
    obtain ⟨m', hm', hmk'⟩ := (Option.any_eq_true _ _).mp hkind'
    exact key_eq_of_unitKind hf ht ht' hm hm'
      ((of_decide_eq_true hmk).trans (of_decide_eq_true hmk').symm)
  have hmetrics : ∀ ms : List (String × String × Node),
      ((ms.filterMap fun t => (p.metricReading t).value).map Instrument.metric).filter
          (·.unitKind = kind) =
        ((ms.filter fun t => (p.metricReading t).value.any (·.unitKind = kind)).filterMap
          fun t => (p.metricReading t).value).map Instrument.metric := by
    intro ms
    rw [List.filter_map, List.filter_filterMap, List.filterMap_filter]
    congr 2
    funext t
    cases (p.metricReading t).value with
    | none => rfl
    | some m => by_cases hm : m.unitKind = kind <;> simp [Instrument.unitKind, hm]
  rw [instrumentsOf_withoutOrigin hf, instrumentsOf_withoutOrigin hf', List.filter_append,
    List.filter_append, hmetrics, hmetrics, hfilter, h.pings]

/-- Documents with the same definitions form the same units, but for origins. -/
theorem SameDefinitions.partition (h : SameDefinitions D D') (hD' : ∀ d ∈ D', d.WellShaped)
    (ha : Acceptable (findingsOf p D)) (hg : Groupable (instrumentsOf p D)) :
    Groupable (instrumentsOf p D') ∧
    (TelemetryBindings.partition (instrumentsOf p D)).map (OutputUnit.map Instrument.withoutOrigin) =
      (TelemetryBindings.partition (instrumentsOf p D')).map
        (OutputUnit.map Instrument.withoutOrigin) := by
  have hf := (acceptable_findingsOf_iff.mp ha).1
  have hshown := keepsPlace_withoutOrigin
  have hagree := hshown.groupable_map_iff.mpr hg
  obtain ⟨hkinds, hunits⟩ :=
    partition_congr hagree.kinds (h.filter_instruments hf (h.flawless hD' hf))
  refine ⟨hshown.groupable_map_iff.mp ⟨hkinds, ?_⟩, ?_⟩
  · rw [← hunits]
    exact hagree.names
  · rw [← hshown.partition_map, ← hshown.partition_map, hunits]

end

/-- Documents with the same definitions compile to the same files, or both fail to compile. -/
theorem compile_arrangement {registry : Registry} {D D' : List SourceDocument}
    {targetName : String} {namespaces : Namespaces} {options : Options}
    (hD : ∀ d ∈ D, d.WellShaped) (hD' : ∀ d ∈ D', d.WellShaped) (h : SameDefinitions D D')
    (files : List Document) :
    compile registry D targetName namespaces options = .ok files ↔
      compile registry D' targetName namespaces options = .ok files := by
  have hrender : ∀ (target : Target) (units : List OutputUnit),
      (units.map (OutputUnit.map Instrument.withoutOrigin)).mapM target.renderUnit =
        units.mapM target.renderUnit := by
    intro target units
    rw [List.mapM_map]
    exact congrArg (units.mapM ·) (funext target.renderUnit_withoutOrigin)
  have hone : ∀ {D D' : List SourceDocument}, (∀ d ∈ D', d.WellShaped) → SameDefinitions D D' →
      compile registry D targetName namespaces options = .ok files →
      compile registry D' targetName namespaces options = .ok files := by
    intro D D' hD' h hfiles
    obtain ⟨target, htarget, ha, hg, hfiles⟩ := compile_eq_ok_iff.mp hfiles
    obtain ⟨hg', hunits⟩ := h.partition hD' ha hg
    refine compile_eq_ok_iff.mpr ⟨target, htarget, h.acceptable hD' ha, hg', ?_⟩
    rw [← hrender, ← hunits, hrender]
    exact hfiles
  exact ⟨hone hD' h, hone hD h.symm⟩

def gatheredDocuments : List SourceDocument :=
  [SourceDocument.ofEntries "a.yaml" .metrics
    [("nav.bar", .mapping [("clicks", sampleCounter "Clicks."), ("drags", sampleCounter "Drags.")]),
      ("tabs", .mapping [("opened", sampleCounter "Opened.")])],
    SourceDocument.ofEntries "p.yaml" .pings [("crash", samplePing "Crashes.")]]

/-- The definitions of `gatheredDocuments`, scattered over four documents. -/
def scatteredDocuments : List SourceDocument :=
  [SourceDocument.ofEntries "1.yaml" .metrics [("tabs", .mapping [("opened", sampleCounter "Opened.")])],
    SourceDocument.ofEntries "2.yaml" .metrics [("nav.bar", .mapping [("clicks", sampleCounter "Clicks.")])],
    SourceDocument.ofEntries "3.yaml" .pings [("crash", samplePing "Crashes.")],
    SourceDocument.ofEntries "4.yaml" .metrics [("nav.bar", .mapping [("drags", sampleCounter "Drags.")])]]

theorem sameDefinitions_scattered : SameDefinitions gatheredDocuments scatteredDocuments where
  categories key := by
    have hgathered : gatheredDocuments.flatMap SourceDocument.categoryKeys =
      ["nav.bar", "tabs"] := by decide
    have hscattered : scatteredDocuments.flatMap SourceDocument.categoryKeys =
      ["tabs", "nav.bar", "nav.bar"] := by decide
    simp [hgathered, hscattered, or_comm]
  metrics key := by
    have hgathered : metricDefinitionsOf gatheredDocuments =
      [("nav.bar", "clicks", sampleCounter "Clicks."),
        ("nav.bar", "drags", sampleCounter "Drags."),
        ("tabs", "opened", sampleCounter "Opened.")] := rfl
    have hscattered : metricDefinitionsOf scatteredDocuments =
      [("tabs", "opened", sampleCounter "Opened."),
        ("nav.bar", "clicks", sampleCounter "Clicks."),
        ("nav.bar", "drags", sampleCounter "Drags.")] := rfl
    rw [hgathered, hscattered]
    by_cases htabs : key = "tabs"
    · subst htabs
      rfl
    · have htabs : "tabs" ≠ key := Ne.symm htabs
      simp [List.filter_cons, htabs]
  pings := rfl

theorem compile_arrangement_scattered :
    ∃ files, compile .builtin gatheredDocuments "kotlin" {} {} = .ok files ∧
      compile .builtin scatteredDocuments "kotlin" {} {} = .ok files := by
  have hshape : ∀ d ∈ gatheredDocuments ++ scatteredDocuments, d.WellShaped := by
    simp only [gatheredDocuments, scatteredDocuments, List.cons_append, List.nil_append,
      List.forall_mem_cons, List.not_mem_nil, false_imp_iff, implies_true, and_true]
    refine ⟨?_, ?_, ?_, ?_, ?_, ?_⟩ <;> exact SourceDocument.wellShaped_ofEntries (by simp)
  have hok : (compile .builtin gatheredDocuments "kotlin" {} {}).isOk = true := by decide +kernel
  cases h : compile .builtin gatheredDocuments "kotlin" {} {} with
  | error e => simp [h, Except.isOk, Except.toBool] at hok
  | ok files =>
    refine ⟨files, rfl, ?_⟩
    exact (compile_arrangement (fun d hd => hshape d (List.mem_append_left _ hd))
      (fun d hd => hshape d (List.mem_append_right _ hd)) sameDefinitions_scattered files).mp h

end TelemetryBindings
