import TelemetryBindings.Proofs.Admission
import TelemetryBindings.Proofs.Lossless
import TelemetryBindings.Proofs.PolicyRules

/-!
# Checking agrees with compiling

Validation looks at a target only for its keywords and for the types that it lacks, and neither
depends on namespaces. Every type that validation lets pass can be written, so that checking for a
target and compiling for it, under whatever namespaces, succeed on the same documents and fail with
the same errors.
-/
namespace TelemetryBindings

/-! ### Policies that validate alike -/

/-- The policies agree on all that validation asks of them. -/
structure Policy.Alike (p q : Policy) : Prop where
  options : p.options = q.options
  isKeyword : p.isKeyword = q.isKeyword
  unsupported? : p.unsupported? = q.unsupported?

namespace Policy.Alike

variable {p q : Policy}

theorem sameRules (h : p.Alike q) : p.SameRules q :=
  ⟨congrArg Options.allowReserved h.options, h.isKeyword, h.unsupported?⟩

theorem readMetric (h : p.Alike q) (origin category name : String) (node : Node) :
    readMetric p origin category name node = readMetric q origin category name node := by
  simp only [TelemetryBindings.readMetric, Definition.metricOf, h.sameRules.checkMetricName,
    h.sameRules.checkSupport, h.sameRules.metricType, h.options]

theorem findings (h : p.Alike q) (d : SourceDocument) : d.findings p = d.findings q := by
  have hmetric : metricFindings p d.origin = metricFindings q d.origin := by
    funext key accepted e
    simp only [metricFindings, h.readMetric]
  have hcategory : categoryFindings p d.origin = categoryFindings q d.origin := by
    funext e
    simp only [categoryFindings, h.sameRules.categoryProblem?, hmetric]
  rw [SourceDocument.findings, SourceDocument.findings, hcategory, h.sameRules.pingFindings]

theorem buildModel (h : p.Alike q) (documents : List SourceDocument) :
    buildModel p documents = buildModel q documents := by
  have hfindings : findingsOf p documents = findingsOf q documents :=
    List.flatMap_congr fun d _ => h.findings d
  obtain ⟨s, hs⟩ := Builder.addDocuments_eq { policy := p } documents
  obtain ⟨t, ht⟩ := Builder.addDocuments_eq { policy := q } documents
  have hfold := Builder.foldl_record_with { policy := q } p false (findingsOf q documents)
  rw [TelemetryBindings.buildModel, TelemetryBindings.buildModel, hs, ht]
  simp only [hfindings, hfold, Builder.build]

theorem unitsOf (h : p.Alike q) (documents : List SourceDocument) :
    unitsOf p documents = unitsOf q documents := by
  rw [TelemetryBindings.unitsOf, TelemetryBindings.unitsOf, h.buildModel]

end Policy.Alike

/-- Namespaces make no difference to validation against a target of this library, or to whether
there is such a target. -/
theorem Registry.create_builtin_alike (name : String) (namespaces namespaces' : Namespaces)
    (options : Options) :
    (∃ target target', builtin.create name namespaces = .ok target ∧
      builtin.create name namespaces' = .ok target' ∧
      Policy.Alike ⟨options, some target⟩ ⟨options, some target'⟩) ∨
    ∃ cause, builtin.create name namespaces = .error cause ∧
      builtin.create name namespaces' = .error cause := by
  cases hcreate : builtin.create name namespaces with
  | ok target =>
    refine Or.inl ⟨target, ?_⟩
    rcases create_builtin_eq_ok_iff.mp hcreate with ⟨hjs, rfl⟩ | ⟨hkt, rfl⟩ | ⟨hsw, rfl⟩
    · exact ⟨_, rfl, create_builtin_eq_ok_iff.mpr (Or.inl ⟨hjs, rfl⟩), rfl, rfl, rfl⟩
    · exact ⟨_, rfl, create_builtin_eq_ok_iff.mpr (Or.inr (Or.inl ⟨hkt, rfl⟩)), rfl, rfl, rfl⟩
    · exact ⟨_, rfl, create_builtin_eq_ok_iff.mpr (Or.inr (Or.inr ⟨hsw, rfl⟩)), rfl, rfl, rfl⟩
  | error cause =>
    refine Or.inr ⟨cause, rfl, ?_⟩
    rw [create] at hcreate ⊢
    cases hlookup : builtin.factories.lookup name with
    | none => simpa [hlookup] using hcreate
    | some factory => simp [hlookup] at hcreate

/-! ### Types that can be written -/

namespace Target

/-- The call of an instrument fails just as the class of its type does. -/
theorem verdict_call (t : Target) (i : Instrument) :
    verdict (t.call i) = verdict (t.className i.variant) := by
  cases t with
  | javascript =>
    simp only [call, className, JavaScript.call]
    cases JavaScript.className i.variant <;> rfl
  | _ => rfl

theorem verdict_entry (t : Target) (i : Instrument) :
    verdict (t.entry i) = verdict (t.className i.variant) := by
  rw [← verdict_call]
  cases t with
  | javascript =>
    simp only [entry, call, JavaScript.entry]
    cases JavaScript.call i <;> rfl
  | _ => rfl

end Target

/-- A type that a policy does not object to has a class in its target. -/
theorem Policy.verdict_className {options : Options} {t : Target} {v : Variant}
    (h : (⟨options, some t⟩ : Policy).unsupported? v = none) : verdict (t.className v) = .ok () := by
  cases hclass : t.className v with
  | ok cls => rfl
  | error cause => simp [unsupported?, hclass] at h

theorem Instrument.Admitted.support {p : Policy} {i : Instrument} (h : i.Admitted p) :
    p.unsupported? i.variant = none := by
  cases i with
  | metric m => exact Metric.Admitted.support h
  | ping q => exact Ping.Admitted.support h

section

variable {options : Options} {target : Target} {documents : List SourceDocument}

/-- Every instrument of a model that was built with a target has a class there. -/
theorem verdict_className_of_buildModel {model : Model}
    (h : buildModel ⟨options, some target⟩ documents = .ok model) :
    ∀ i ∈ model.instruments, verdict (target.className i.variant) = .ok () := by
  obtain ⟨ha, rfl⟩ := buildModel_eq_ok_iff.mp h
  intro i hi
  exact Policy.verdict_className
    (admitted_instrumentsOf (acceptable_findingsOf_iff.mp ha).1 i hi).support

/-- Every unit of a model that was built with a target can be rendered. -/
theorem exists_files_of_unitsOf {model : Model} {units : List OutputUnit}
    (h : unitsOf ⟨options, some target⟩ documents = .ok (model, units)) :
    ∃ files, units.mapM target.renderUnit = .ok files := by
  obtain ⟨ha, rfl, -, rfl⟩ := unitsOf_eq_ok_iff.mp h
  have hclass := verdict_className_of_buildModel (buildModel_eq_ok_iff.mpr ⟨ha, rfl⟩)
  refine exists_mapM fun u hu => ?_
  obtain ⟨i, -, rfl⟩ := mem_partition.mp hu
  have hentries : ∀ j ∈ (unitOf (instrumentsOf ⟨options, some target⟩ documents) i.unitId).instruments,
      ∃ entry, target.entry j = .ok entry := by
    intro j hj
    rw [← verdict_eq_ok_iff, Target.verdict_entry]
    exact hclass j (List.mem_filter.mp hj).1
  obtain ⟨entries, hentries⟩ := exists_mapM hentries
  exact ⟨_, Target.renderUnit_eq_ok_iff.mpr ⟨entries, hentries, rfl⟩⟩

end

section

variable {registry : Registry} {documents : List SourceDocument} {targetName : String}
  {namespaces : Namespaces} {options : Options}

/-- Documents are checked by choosing the target and dividing their instruments into units. -/
theorem verdict_check : verdict (check registry documents (some targetName) options) =
    verdict (do
      let target ← (registry.create targetName {}).mapError .unknownTarget
      unitsOf ⟨options, some target⟩ documents) := by
  rw [check, Registry.choose]
  cases registry.create targetName {} with
  | error cause => rfl
  | ok target =>
    simp only [Except.map, Except.mapError, bind, Except.bind]
    cases unitsOf ⟨options, some target⟩ documents <;> rfl

/-- Compiling fails nowhere else. -/
theorem verdict_compile : verdict (compile registry documents targetName namespaces options) =
    verdict (do
      let target ← (registry.create targetName namespaces).mapError .unknownTarget
      unitsOf ⟨options, some target⟩ documents) := by
  rw [compile]
  cases registry.create targetName namespaces with
  | error cause => rfl
  | ok target =>
    simp only [Except.mapError, bind, Except.bind]
    cases hunits : unitsOf ⟨options, some target⟩ documents with
    | error e => rfl
    | ok result =>
      obtain ⟨files, hfiles⟩ := exists_files_of_unitsOf hunits
      simp only [hfiles]
      rfl

theorem exists_compile_of_unitsOf {target : Target} {model : Model} {units : List OutputUnit}
    (htarget : registry.create targetName namespaces = .ok target)
    (hunits : unitsOf ⟨options, some target⟩ documents = .ok (model, units)) :
    ∃ files, compile registry documents targetName namespaces options = .ok files := by
  rw [← verdict_eq_ok_iff, verdict_compile, htarget]
  simp only [Except.mapError, bind, Except.bind]
  exact verdict_eq_ok_iff.mpr ⟨_, hunits⟩

theorem unitsOf_ne_unsupportedVariant {p : Policy} (cause : UnsupportedVariant) :
    unitsOf p documents ≠ .error (.unsupportedVariant cause) := by
  rw [unitsOf]
  cases buildModel p documents with
  | error errors => simp [Except.mapError, bind, Except.bind]
  | ok model =>
    cases hgroup : group model <;>
      simp [Except.mapError, bind, Except.bind, hgroup, pure, Except.pure]

theorem compile_ne_unsupportedVariant (cause : UnsupportedVariant) :
    compile registry documents targetName namespaces options ≠ .error (.unsupportedVariant cause) := by
  intro h
  have hverdict := congrArg verdict h
  rw [verdict_compile] at hverdict
  cases hcreate : registry.create targetName namespaces with
  | error e => simp [hcreate, Except.mapError, bind, Except.bind, verdict, Except.map] at hverdict
  | ok target =>
    simp only [hcreate, Except.mapError, bind, Except.bind] at hverdict
    cases hunits : unitsOf ⟨options, some target⟩ documents with
    | error e =>
      have he : e = .unsupportedVariant cause := by
        simpa [hunits, verdict, Except.map] using hverdict
      exact unitsOf_ne_unsupportedVariant cause (he ▸ hunits)
    | ok result => simp [hunits, verdict, Except.map] at hverdict

end

/-- Checking for a target and compiling for it, under whatever namespaces, succeed on the same
documents and fail with the same errors. None of these is an error of rendering, since every
instrument of a model that was built with a target has a class, a call and a declaration there. -/
theorem verdict_check_eq_compile (documents : List SourceDocument) (targetName : String)
    (namespaces : Namespaces) (options : Options) :
    verdict (check .builtin documents (some targetName) options) =
      verdict (compile .builtin documents targetName namespaces options) ∧
    (∀ cause, compile .builtin documents targetName namespaces options ≠
      .error (.unsupportedVariant cause)) ∧
    ∀ target model, buildModel ⟨options, some target⟩ documents = .ok model →
      ∀ i ∈ model.instruments, (∃ cls, target.className i.variant = .ok cls) ∧
        (∃ call, target.call i = .ok call) ∧ ∃ entry, target.entry i = .ok entry := by
  refine ⟨?_, compile_ne_unsupportedVariant, fun target model hmodel i hi => ?_⟩
  · rw [verdict_check, verdict_compile]
    rcases Registry.create_builtin_alike targetName {} namespaces options with
      ⟨target, target', hcreate, hcreate', halike⟩ | ⟨cause, hcreate, hcreate'⟩
    · rw [hcreate, hcreate']
      exact congrArg verdict (halike.unitsOf documents)
    · rw [hcreate, hcreate']
  · have hclass := verdict_className_of_buildModel hmodel i hi
    rw [← verdict_eq_ok_iff, ← verdict_eq_ok_iff, ← verdict_eq_ok_iff, Target.verdict_call,
      Target.verdict_entry]
    exact ⟨hclass, hclass, hclass⟩

/-- Documents that pass a check can be compiled into a package of their own. -/
theorem verdict_check_eq_compile_package :
    verdict (check .builtin sampleDocuments (some "kotlin") { allowReserved := true }) = .ok () ∧
    ∃ files, compile .builtin sampleDocuments "kotlin" { generated := some "com.example" }
      { allowReserved := true } = .ok files := by
  have hcheck : verdict (check .builtin sampleDocuments (some "kotlin")
      { allowReserved := true }) = .ok () := by set_option maxRecDepth 4000 in decide
  refine ⟨hcheck, verdict_eq_ok_iff.mp ?_⟩
  rw [← (verdict_check_eq_compile sampleDocuments "kotlin" _ _).1]
  exact hcheck

end TelemetryBindings
