import Mathlib.Data.List.Induction
import Mathlib.Data.List.Nodup
import TelemetryBindings.Builder

/-!
# What a build keeps

A build records the findings of all documents one after the other. It succeeds exactly when no
finding is a problem and no metric and no ping is defined twice, and the model then lists what was
found, in order.
-/
namespace TelemetryBindings

namespace Finding

def isFault : Finding → Bool
  | .fault _ => true
  | _ => false

def metric? : Finding → Option Metric
  | .metric _ m => some m
  | _ => none

def ping? : Finding → Option Ping
  | .ping _ p => some p
  | _ => none

end Finding

def Metric.key (m : Metric) : String × String := (m.category, m.name)

def findingsOf (p : Policy) (documents : List SourceDocument) : List Finding :=
  documents.flatMap (·.findings p)

theorem findingsOf_append {p : Policy} {ds es : List SourceDocument} :
    findingsOf p (ds ++ es) = findingsOf p ds ++ findingsOf p es :=
  List.flatMap_append

def modelOf (fs : List Finding) : Model where
  metrics := fs.filterMap Finding.metric?
  pings := fs.filterMap Finding.ping?

/-- No problem was found, and nothing was defined twice. -/
structure Acceptable (fs : List Finding) : Prop where
  faultless : ∀ f ∈ fs, f.isFault = false
  metrics : ((modelOf fs).metrics.map Metric.key).Nodup
  pings : ((modelOf fs).pings.map (·.name)).Nodup

theorem modelOf_append_metric (fs : List Finding) (location : Location) (m : Metric) :
    modelOf (fs ++ [.metric location m]) =
      ⟨(modelOf fs).metrics ++ [m], (modelOf fs).pings⟩ := by
  rw [modelOf, List.filterMap_append, List.filterMap_append]
  exact congrArg (Model.mk _) (List.append_nil _)

theorem modelOf_append_ping (fs : List Finding) (location : Location) (q : Ping) :
    modelOf (fs ++ [.ping location q]) =
      ⟨(modelOf fs).metrics, (modelOf fs).pings ++ [q]⟩ := by
  rw [modelOf, List.filterMap_append, List.filterMap_append]
  exact congrArg (Model.mk · _) (List.append_nil _)

/-- The finding may follow those before it. -/
def Finding.Fits (fs : List Finding) : Finding → Prop
  | .fault _ => False
  | .metric _ m => m.key ∉ (modelOf fs).metrics.map Metric.key
  | .ping _ p => p.name ∉ (modelOf fs).pings.map (·.name)

theorem acceptable_nil : Acceptable [] := ⟨by simp, by simp [modelOf], by simp [modelOf]⟩

theorem faultless_append_singleton {fs : List Finding} {f : Finding} :
    (∀ g ∈ fs ++ [f], g.isFault = false) ↔ (∀ g ∈ fs, g.isFault = false) ∧ f.isFault = false := by
  simp only [List.forall_mem_append, List.forall_mem_singleton]

theorem acceptable_append_singleton {fs : List Finding} {f : Finding} :
    Acceptable (fs ++ [f]) ↔ Acceptable fs ∧ f.Fits fs := by
  constructor
  · rintro ⟨hf, hm, hp⟩
    rw [faultless_append_singleton] at hf
    cases f with
    | fault e => exact absurd hf.2 (by simp [Finding.isFault])
    | metric location m =>
      rw [modelOf_append_metric] at hm hp
      rw [List.map_append, List.map_singleton, List.nodup_append] at hm
      exact ⟨⟨hf.1, hm.1, hp⟩, fun hmem => hm.2.2 _ hmem _ (List.mem_singleton_self _) rfl⟩
    | ping location q =>
      rw [modelOf_append_ping] at hm hp
      rw [List.map_append, List.map_singleton, List.nodup_append] at hp
      exact ⟨⟨hf.1, hm, hp.1⟩, fun hmem => hp.2.2 _ hmem _ (List.mem_singleton_self _) rfl⟩
  · rintro ⟨⟨hf, hm, hp⟩, hfit⟩
    cases f with
    | fault e => exact hfit.elim
    | metric location m =>
      refine ⟨faultless_append_singleton.mpr ⟨hf, rfl⟩, ?_, ?_⟩
      · rw [modelOf_append_metric, List.map_append, List.map_singleton]
        exact hm.append (List.nodup_singleton _) (List.disjoint_singleton.mpr hfit)
      · rwa [modelOf_append_metric]
    | ping location q =>
      refine ⟨faultless_append_singleton.mpr ⟨hf, rfl⟩, ?_, ?_⟩
      · rwa [modelOf_append_ping]
      · rw [modelOf_append_ping, List.map_append, List.map_singleton]
        exact hp.append (List.nodup_singleton _) (List.disjoint_singleton.mpr hfit)

namespace Builder

/-- The state of a builder that kept all findings. -/
def after (p : Policy) (fs : List Finding) : Builder where
  policy := p
  model := modelOf fs
  seenMetrics := ((modelOf fs).metrics.map Metric.key).reverse
  seenPings := ((modelOf fs).pings.map (·.name)).reverse

theorem record_after {p : Policy} {fs : List Finding} {f : Finding} (h : f.Fits fs) :
    (after p fs).record f = after p (fs ++ [f]) := by
  cases f with
  | fault e => exact h.elim
  | metric location m =>
    have hnew : (m.category, m.name) ∉ (after p fs).seenMetrics := by
      rw [after, List.mem_reverse]
      exact h
    rw [record, if_neg hnew]
    simp [after, modelOf_append_metric, Metric.key]
  | ping location q =>
    have hnew : q.name ∉ (after p fs).seenPings := by
      rw [after, List.mem_reverse]
      exact h
    rw [record, if_neg hnew]
    simp [after, modelOf_append_ping]

theorem errors_record_after_ne_nil {p : Policy} {fs : List Finding} {f : Finding}
    (h : ¬ f.Fits fs) : ((after p fs).record f).errors ≠ [] := by
  cases f with
  | fault e => simp [record, fail]
  | metric location m =>
    have hseen : (m.category, m.name) ∈ (after p fs).seenMetrics := by
      rw [after, List.mem_reverse]
      exact not_not.mp h
    simp [record, if_pos hseen, fail]
  | ping location q =>
    have hseen : q.name ∈ (after p fs).seenPings := by
      rw [after, List.mem_reverse]
      exact not_not.mp h
    simp [record, if_pos hseen, fail]

theorem errors_record_ne_nil {b : Builder} (h : b.errors ≠ []) (f : Finding) :
    (b.record f).errors ≠ [] := by
  cases f with
  | fault e => simp [record, fail]
  | metric location m =>
    rw [record]
    split_ifs
    · simp [fail]
    · exact h
  | ping location q =>
    rw [record]
    split_ifs
    · simp [fail]
    · exact h

/-- Recording findings keeps them all, or leaves an error behind. -/
theorem foldl_record (p : Policy) (fs : List Finding) :
    (Acceptable fs → fs.foldl record { policy := p } = after p fs) ∧
    (¬ Acceptable fs → (fs.foldl record { policy := p }).errors ≠ []) := by
  induction fs using List.reverseRecOn with
  | nil => exact ⟨fun _ => rfl, fun h => absurd acceptable_nil h⟩
  | append_singleton fs f ih =>
    rw [List.foldl_append, List.foldl_cons, List.foldl_nil, acceptable_append_singleton]
    by_cases hfs : Acceptable fs
    · rw [ih.1 hfs]
      exact ⟨fun h => record_after h.2, fun h => errors_record_after_ne_nil fun hf => h ⟨hfs, hf⟩⟩
    · exact ⟨fun h => absurd h.1 hfs, fun _ => errors_record_ne_nil (ih.2 hfs) f⟩

/-- Recording looks neither at the policy nor at whether pings were declared. -/
theorem foldl_record_with (b : Builder) (q : Policy) (s : Bool) (fs : List Finding) :
    fs.foldl record { b with policy := q, sawPings := s } =
      { fs.foldl record b with policy := q, sawPings := s } := by
  induction fs generalizing b with
  | nil => rfl
  | cons f fs ih =>
    have hstep : record { b with policy := q, sawPings := s } f =
        { record b f with policy := q, sawPings := s } := by
      cases f with
      | fault e => rfl
      | metric location m =>
        simp only [record]
        split_ifs <;> rfl
      | ping location q =>
        simp only [record]
        split_ifs <;> rfl
    rw [List.foldl_cons, hstep, ih, List.foldl_cons]

theorem foldl_record_policy (b : Builder) (fs : List Finding) :
    (fs.foldl record b).policy = b.policy := by
  have h := congrArg Builder.policy (foldl_record_with b b.policy b.sawPings fs)
  exact h

theorem foldl_record_sawPings (b : Builder) (s : Bool) (fs : List Finding) :
    fs.foldl record { b with sawPings := s } = { fs.foldl record b with sawPings := s } := by
  rw [foldl_record_with b b.policy s fs, ← foldl_record_policy b fs]

/-- Adding documents is recording their findings. -/
theorem addDocuments_eq (b : Builder) (documents : List SourceDocument) :
    ∃ s, b.addDocuments documents =
      { (findingsOf b.policy documents).foldl record b with sawPings := s } := by
  induction documents generalizing b with
  | nil => exact ⟨b.sawPings, rfl⟩
  | cons d ds ih =>
    obtain ⟨s, hs⟩ := ih (b.addDocument d)
    refine ⟨s, ?_⟩
    have hpolicy : (b.addDocument d).policy = b.policy := foldl_record_policy b _
    rw [addDocuments, List.foldl_cons, ← addDocuments, hs, hpolicy, addDocument,
      foldl_record_sawPings]
    simp only [findingsOf, List.flatMap_cons, List.foldl_append]

end Builder

theorem exists_eq_ok_of_isOk {ε α : Type} {x : Except ε α} (h : x.isOk = true) :
    ∃ a, x = .ok a := by
  cases x with
  | error e => cases h
  | ok a => exact ⟨a, rfl⟩

/-- A build succeeds exactly if the findings of all documents together are acceptable. -/
theorem buildModel_eq_ok_iff {p : Policy} {documents : List SourceDocument} {model : Model} :
    buildModel p documents = .ok model ↔
      Acceptable (findingsOf p documents) ∧ model = modelOf (findingsOf p documents) := by
  obtain ⟨s, hs⟩ := Builder.addDocuments_eq { policy := p } documents
  rw [buildModel, hs]
  by_cases h : Acceptable (findingsOf p documents)
  · rw [(Builder.foldl_record p _).1 h]
    simp [Builder.build, Builder.after, h, eq_comm]
  · have hne := (Builder.foldl_record p _).2 h
    simp [Builder.build, h, hne]

/-! ### Builders that only append -/

namespace Builder

structure Grows (b b' : Builder) : Prop where
  metrics : b.model.metrics <+: b'.model.metrics
  pings : b.model.pings <+: b'.model.pings
  errors : b.errors <+: b'.errors

theorem Grows.refl (b : Builder) : b.Grows b :=
  ⟨List.prefix_refl _, List.prefix_refl _, List.prefix_refl _⟩

theorem Grows.trans {a b c : Builder} (hab : a.Grows b) (hbc : b.Grows c) : a.Grows c :=
  ⟨hab.metrics.trans hbc.metrics, hab.pings.trans hbc.pings, hab.errors.trans hbc.errors⟩

theorem grows_fail (b : Builder) (e : SchemaError) : b.Grows (b.fail e) :=
  { Grows.refl b with errors := List.prefix_append _ _ }

theorem grows_record (b : Builder) (f : Finding) : b.Grows (b.record f) := by
  cases f with
  | fault e => exact b.grows_fail e
  | metric location m =>
    rw [record]
    split
    · exact b.grows_fail _
    · exact { Grows.refl b with metrics := List.prefix_append _ _ }
  | ping location q =>
    rw [record]
    split
    · exact b.grows_fail _
    · exact { Grows.refl b with pings := List.prefix_append _ _ }

theorem grows_foldl_record (fs : List Finding) (b : Builder) : b.Grows (fs.foldl record b) := by
  induction fs generalizing b with
  | nil => exact Grows.refl b
  | cons f fs ih => exact (b.grows_record f).trans (ih _)

theorem grows_addDocument (b : Builder) (d : SourceDocument) : b.Grows (b.addDocument d) :=
  { grows_foldl_record (d.findings b.policy) b with }

end Builder

/-! ### The errors of a build -/

def buildErrors (p : Policy) (documents : List SourceDocument) : List SchemaError :=
  match buildModel p documents with
  | .ok _ => []
  | .error errors => errors

/-- The errors of a build are those of recording all findings. -/
theorem buildErrors_eq (p : Policy) (documents : List SourceDocument) :
    buildErrors p documents =
      ((findingsOf p documents).foldl Builder.record { policy := p }).errors := by
  obtain ⟨s, hs⟩ := Builder.addDocuments_eq { policy := p } documents
  rw [buildErrors, buildModel, hs, Builder.build]
  split
  · next h => exact (List.isEmpty_iff.mp (by split at h <;> simp_all)).symm
  · next h => split at h <;> simp_all

def SchemaError.isDuplicate (e : SchemaError) : Bool := e.problem == .duplicateDefinition

end TelemetryBindings
