import TelemetryBindings.Proofs.Definitions
import TelemetryBindings.Proofs.Reports

/-!
# What a builder collects

A builder only ever appends. Of the definitions that are valid on their own it keeps the first of
every metric and every ping, and records each later one as an error where it stands; a definition
with a problem, or one under a refused category, leaves no trace but its problems. All other errors
are the problems found in the documents, each of which is read without looking at the others.
-/
namespace TelemetryBindings

/-! ### First and repeated definitions -/

namespace Finding

/-- What tells definitions apart; a fault defines nothing. -/
def key? : Finding → Option ((String × String) ⊕ String)
  | .fault _ => none
  | .metric _ m => some (.inl m.key)
  | .ping _ q => some (.inr q.name)

def location : Finding → Location
  | .fault e => e.location
  | .metric location _ => location
  | .ping location _ => location

def fault? : Finding → Option SchemaError
  | .fault e => some e
  | _ => none

def repetition (f : Finding) : SchemaError := ⟨f.location, .duplicateDefinition⟩

theorem fits_iff {fs : List Finding} {f : Finding} :
    f.Fits fs ↔ ∃ k ∈ f.key?, k ∉ fs.filterMap key? := by
  have hmetrics : ∀ k, k ∈ (modelOf fs).metrics.map Metric.key ↔ .inl k ∈ fs.filterMap key? := by
    intro k
    simp only [modelOf, List.map_filterMap, List.mem_filterMap]
    refine exists_congr fun g => and_congr_right fun _ => ?_
    cases g <;> simp [metric?, key?]
  have hpings : ∀ k, k ∈ (modelOf fs).pings.map (·.name) ↔ .inr k ∈ fs.filterMap key? := by
    intro k
    simp only [modelOf, List.map_filterMap, List.mem_filterMap]
    refine exists_congr fun g => and_congr_right fun _ => ?_
    cases g <;> simp [ping?, key?]
  cases f with
  | fault e => simp [Fits, key?]
  | metric location m => simp [Fits, key?, hmetrics]
  | ping location q => simp [Fits, key?, hpings]

instance decidableFits (fs : List Finding) : (f : Finding) → Decidable (f.Fits fs)
  | .fault _ => inferInstanceAs (Decidable False)
  | .metric _ m => inferInstanceAs (Decidable (m.key ∉ (modelOf fs).metrics.map Metric.key))
  | .ping _ q => inferInstanceAs (Decidable (q.name ∉ (modelOf fs).pings.map (·.name)))

/-- What fits behind more definitions fits behind fewer. -/
theorem Fits.mono {fs gs : List Finding} {f : Finding} (h : fs ⊆ gs) (hf : f.Fits gs) :
    f.Fits fs := by
  obtain ⟨k, hk, hnew⟩ := fits_iff.mp hf
  exact fits_iff.mpr ⟨k, hk, fun hmem => hnew (List.filterMap_subset key? h hmem)⟩

end Finding

/-- Each finding with those before it. -/
def placed (before : List Finding) : List Finding → List (List Finding × Finding)
  | [] => []
  | f :: fs => (before, f) :: placed (before ++ [f]) fs

theorem placed_append (before fs gs : List Finding) :
    placed before (fs ++ gs) = placed before fs ++ placed (before ++ fs) gs := by
  induction fs generalizing before with
  | nil => simp [placed]
  | cons f fs ih => simp [placed, ih]

/-- The first definition of every metric and every ping. -/
def firsts (fs : List Finding) : List Finding :=
  ((placed [] fs).filter fun (before, f) => f.Fits before).map (·.2)

def repeatsAfter (before fs : List Finding) : List Finding :=
  ((placed before fs).filter fun (before, f) => ¬ f.Fits before).map (·.2)

/-- Every definition but the first of each metric and each ping. -/
def repeats (fs : List Finding) : List Finding := repeatsAfter [] fs

theorem firsts_append_singleton (fs : List Finding) (f : Finding) :
    firsts (fs ++ [f]) = firsts fs ++ if f.Fits fs then [f] else [] := by
  simp only [firsts, placed_append, placed, List.filter_append, List.map_append, List.nil_append]
  by_cases hf : f.Fits fs <;> simp [hf]

theorem repeatsAfter_cons (before fs : List Finding) (f : Finding) :
    repeatsAfter before (f :: fs) =
      (if f.Fits before then [] else [f]) ++ repeatsAfter (before ++ [f]) fs := by
  by_cases hf : f.Fits before <;> simp [repeatsAfter, placed, hf]

theorem repeats_append (fs gs : List Finding) :
    repeats (fs ++ gs) = repeats fs ++ repeatsAfter fs gs := by
  simp only [repeats, repeatsAfter, placed_append, List.filter_append, List.map_append,
    List.nil_append]

theorem repeats_append_singleton (fs : List Finding) (f : Finding) :
    repeats (fs ++ [f]) = repeats fs ++ if f.Fits fs then [] else [f] := by
  rw [repeats_append, repeatsAfter_cons]
  exact congrArg (repeats fs ++ ·) (List.append_nil _)

/-- What repeats a definition still does behind more of them. -/
theorem repeatsAfter_sublist {before before' : List Finding} (h : before ⊆ before')
    (fs : List Finding) : (repeatsAfter before fs).Sublist (repeatsAfter before' fs) := by
  induction fs generalizing before before' with
  | nil => exact List.Sublist.refl _
  | cons f fs ih =>
    have hrest := ih (List.append_subset.mpr ⟨List.subset_append_of_subset_left _ h,
      List.subset_append_right _ _⟩ : before ++ [f] ⊆ before' ++ [f])
    rw [repeatsAfter_cons, repeatsAfter_cons]
    refine List.Sublist.append ?_ hrest
    by_cases hf : f.Fits before
    · rw [if_pos hf]
      exact List.nil_sublist _
    · rw [if_neg hf, if_neg fun hfits => hf (hfits.mono h)]

theorem repeats_sublist_append (fs gs : List Finding) :
    (repeats fs ++ repeats gs).Sublist (repeats (fs ++ gs)) := by
  rw [repeats_append]
  exact (List.Sublist.refl _).append (repeatsAfter_sublist (List.nil_subset fs) gs)

/-- The first definitions define everything. -/
theorem fits_firsts {fs : List Finding} {f : Finding} : f.Fits (firsts fs) ↔ f.Fits fs := by
  have hkeys : ∀ k, k ∈ (firsts fs).filterMap Finding.key? ↔ k ∈ fs.filterMap Finding.key? := by
    intro k
    induction fs using List.reverseRecOn with
    | nil => rfl
    | append_singleton fs g ih =>
      rw [firsts_append_singleton, List.filterMap_append, List.filterMap_append, List.mem_append,
        List.mem_append, ih]
      by_cases hg : g.Fits fs
      · rw [if_pos hg]
      · rw [if_neg hg, Finding.fits_iff] at *
        push Not at hg
        have hold : k ∈ [g].filterMap Finding.key? → k ∈ fs.filterMap Finding.key? := by
          intro hk
          exact hg k (by simpa using hk)
        simpa using hold
  simp only [Finding.fits_iff, hkeys]

/-! ### Valid definitions -/

def Checked.valid? {α : Type} (c : Checked (Option α)) : Option α :=
  if c.problems = [] then c.value else none

def Policy.validMetric? (p : Policy) (origin : String) : String × String × Node → Option Finding
  | (key, name, node) =>
    if p.categoryProblem? key = none then
      (readMetric p origin (categoryOfKey key) name node).valid?.map (.metric (.metric key name))
    else none

def Policy.validPing? (p : Policy) (origin : String) : String × Node → Option Finding
  | (name, node) => (readPing p origin name node).valid?.map (.ping (.ping name))

/-- What the definitions of a document define that are valid, each of them read on its own. -/
def SourceDocument.validDefinitions (p : Policy) (d : SourceDocument) : List Finding :=
  d.metricDefinitions.filterMap (p.validMetric? d.origin) ++
    d.pingDefinitions.filterMap (p.validPing? d.origin)

section

variable {p : Policy} {origin key name : String} {node : Node}

theorem Checked.value_clean {α : Type} (c : Checked (Option α)) :
    c.clean.value = c.clean.valid? := by
  rw [valid?, clean]
  split
  · next h => exact (if_pos (List.isEmpty_iff.mp h)).symm
  · exact (ite_self none).symm

theorem value_readMetric {category : String} :
    (readMetric p origin category name node).value =
      (readMetric p origin category name node).valid? := by
  cases node with
  | mapping d => exact Checked.value_clean _
  | _ => rfl

theorem value_readPing :
    (readPing p origin name node).value = (readPing p origin name node).valid? := by
  cases node with
  | mapping d => exact Checked.value_clean _
  | _ => rfl

theorem Checked.valid?_eq_some_iff {α : Type} {c : Checked (Option α)} {a : α} :
    c.valid? = some a ↔ c.problems = [] ∧ c.value = some a := by
  rw [valid?]
  split_ifs with h <;> simp [h]

/-- A metric definition is valid exactly if its category is accepted and reading it meets no problem.
It then defines the metric that it is declared as. -/
theorem exists_validMetric?_iff :
    (∃ m, p.validMetric? origin (key, name, node) = some (.metric (.metric key name) m) ∧
      m.key = (categoryOfKey key, name)) ↔
      p.categoryProblem? key = none ∧
        (readMetric p origin (categoryOfKey key) name node).problems = [] := by
  constructor
  · rintro ⟨m, hm, -⟩
    rw [Policy.validMetric?] at hm
    split_ifs at hm with hkey
    obtain ⟨read, hread, -⟩ := Option.map_eq_some_iff.mp hm
    exact ⟨hkey, (Checked.valid?_eq_some_iff.mp hread).1⟩
  · rintro ⟨hkey, hread⟩
    obtain ⟨m, hm, hcategory, hname⟩ := readMetric_isSome hread
    refine ⟨m, ?_, by rw [Metric.key, hcategory, hname]⟩
    rw [Policy.validMetric?, if_pos hkey, Checked.valid?_eq_some_iff.mpr ⟨hread, hm⟩,
      Option.map_some]

theorem exists_validPing?_iff :
    (∃ q, p.validPing? origin (name, node) = some (.ping (.ping name) q) ∧ q.name = name) ↔
      (readPing p origin name node).problems = [] := by
  constructor
  · rintro ⟨q, hq, -⟩
    rw [Policy.validPing?] at hq
    obtain ⟨read, hread, -⟩ := Option.map_eq_some_iff.mp hq
    exact (Checked.valid?_eq_some_iff.mp hread).1
  · intro hread
    obtain ⟨q, hq, hname⟩ := readPing_isSome hread
    refine ⟨q, ?_, hname⟩
    rw [Policy.validPing?, Checked.valid?_eq_some_iff.mpr ⟨hread, hq⟩, Option.map_some]

theorem Checked.definitions_findings {α : Type} {c : Checked (Option α)} {location : Location}
    {keep : Option (α → Finding)} (hkeep : ∀ f ∈ keep, ∀ a, (f a).isFault = false) :
    (c.findings location keep).filter (!·.isFault) =
      (keep.bind fun f => c.value.map f).toList := by
  rw [Checked.findings, List.filter_append, List.filter_eq_nil_iff.mpr, List.filter_eq_self.mpr,
    List.nil_append]
  · exact fun f hf => by rw [isFault_of_mem_kept hkeep hf]; rfl
  · exact List.forall_mem_map.mpr fun q _ => by simp [Finding.isFault]

theorem definitions_metricFindings (e : String × Node) :
    (metricFindings p origin key (p.categoryProblem? key).isNone e).filter (!·.isFault) =
      (p.validMetric? origin (key, e)).toList := by
  rw [metricFindings, Checked.definitions_findings fun _ => isFault_of_keptMetric,
    Policy.validMetric?, value_readMetric]
  cases p.categoryProblem? key <;> rfl

theorem definitions_pingFindings (e : String × Node) :
    (pingFindings p origin e).filter (!·.isFault) = (p.validPing? origin e).toList := by
  rw [pingFindings, Checked.definitions_findings fun _ => isFault_of_keptPing,
    Policy.validPing?, value_readPing]
  rfl

theorem definitions_categoryFindings (e : String × Node) :
    (categoryFindings p origin e).filter (!·.isFault) =
      (e.2.entries.map (e.1, ·)).filterMap (p.validMetric? origin) := by
  obtain ⟨key, node⟩ := e
  have hflaw : ((p.categoryProblem? key).toList.map fun q =>
      Finding.fault ⟨.document origin, q⟩).filter (!·.isFault) = [] := by
    simp [Finding.isFault]
  unfold categoryFindings
  simp only [List.filter_append, hflaw, List.nil_append, List.filterMap_map]
  cases node with
  | mapping ms =>
    rw [List.filter_flatMap, Node.entries, List.filterMap_eq_flatMap_toList]
    exact List.flatMap_congr fun m _ => definitions_metricFindings m
  | _ => rfl

/-- What is found in a document besides faults is what is valid in it. -/
theorem SourceDocument.definitions_findings (d : SourceDocument) :
    (d.findings p).filter (!·.isFault) = d.validDefinitions p := by
  cases hopen : d.open? with
  | error problem =>
    have hnone : ∀ kind, d.rootDefinitions kind = [] := by
      intro kind
      refine List.eq_nil_iff_forall_not_mem.mpr fun e he => ?_
      obtain ⟨⟨entries, hroot⟩, hschema⟩ := declares_of_mem_rootDefinitions he
      rw [open?_eq_ok_iff.mpr ⟨hroot, hschema⟩] at hopen
      cases hopen
    rw [findings, hopen, validDefinitions, metricDefinitions, pingDefinitions, hnone, hnone]
    rfl
  | ok opened =>
    obtain ⟨hroot, hschema⟩ := open?_eq_ok_iff.mp hopen
    rw [findings_eq ⟨⟨_, hroot⟩, hschema⟩, List.filter_append, List.filter_flatMap,
      List.filter_flatMap, validDefinitions, metricDefinitions, List.filterMap_flatMap,
      List.filterMap_eq_flatMap_toList]
    congr 1
    · exact List.flatMap_congr fun e _ => definitions_categoryFindings e
    · exact List.flatMap_congr fun e _ => definitions_pingFindings e

/-! ### Faults -/

def Finding.Original : Finding → Prop
  | .fault e => e.isDuplicate = false
  | _ => True

theorem Finding.original_fault {location : Location} {q : Problem} (h : q.isDuplicate = false) :
    (Finding.fault ⟨location, q⟩).Original :=
  h

theorem Finding.Original.of_isFault {f : Finding} (h : f.isFault = false) : f.Original := by
  cases f with
  | fault e => cases h
  | _ => trivial

theorem Checked.Single.original {α : Type} {c : Checked (Option α)} (h : c.Single)
    {location : Location} {keep : Option (α → Finding)}
    (hkeep : ∀ f ∈ keep, ∀ a, (f a).isFault = false) :
    ∀ f ∈ c.findings location keep, f.Original :=
  List.forall_mem_append.mpr ⟨List.forall_mem_map.mpr fun q hq => Finding.original_fault (h q hq),
    fun _ hf => .of_isFault (isFault_of_mem_kept hkeep hf)⟩

theorem original_categoryFindings (e : String × Node) :
    ∀ f ∈ categoryFindings p origin e, f.Original := by
  obtain ⟨key, node⟩ := e
  have hflaw : ∀ q ∈ (p.categoryProblem? key).toList, q.isDuplicate = false := by
    intro q hq
    rw [Policy.categoryProblem?] at hq
    split_ifs at hq
    · exact List.mem_singleton.mp hq ▸ rfl
    · exact absurd hq List.not_mem_nil
    · exact List.mem_singleton.mp hq ▸ rfl
  refine List.forall_mem_append.mpr
    ⟨List.forall_mem_map.mpr fun q hq => Finding.original_fault (hflaw q hq), ?_⟩
  cases node with
  | mapping ms =>
    exact List.forall_mem_flatMap.mpr fun m _ =>
      Checked.Single.original (single_readMetric _ _ _ _ _) fun _ => isFault_of_keptMetric
  | _ => exact List.forall_mem_singleton.mpr (Finding.original_fault rfl)

/-- No document says of itself that something is defined twice. -/
theorem SourceDocument.original_findings (d : SourceDocument) :
    ∀ f ∈ d.findings p, f.Original := by
  cases hopen : d.open? with
  | error problem =>
    rw [findings, hopen]
    exact List.forall_mem_singleton.mpr
      (Finding.original_fault (Problem.isDuplicate_of_isInherent (isInherent_of_open? hopen)))
  | ok opened =>
    obtain ⟨hroot, hschema⟩ := open?_eq_ok_iff.mp hopen
    rw [findings_eq ⟨⟨_, hroot⟩, hschema⟩]
    refine List.forall_mem_append.mpr ⟨List.forall_mem_flatMap.mpr fun e _ =>
      original_categoryFindings e, List.forall_mem_flatMap.mpr fun e _ => ?_⟩
    exact Checked.Single.original (single_readPing _ _ _ _) fun _ => isFault_of_keptPing

end

theorem original_findingsOf (p : Policy) (documents : List SourceDocument) :
    ∀ f ∈ findingsOf p documents, f.Original :=
  List.forall_mem_flatMap.mpr fun d _ => d.original_findings

/-! ### What a builder keeps of the valid definitions -/

namespace Builder

/-- The builder has kept the first of the definitions of every metric and every ping, and an error
for each other one. -/
structure Collects (b : Builder) (definitions : List Finding) : Prop where
  model : b.model = modelOf (firsts definitions)
  seenMetrics : b.seenMetrics = (b.model.metrics.map Metric.key).reverse
  seenPings : b.seenPings = (b.model.pings.map (·.name)).reverse
  repetitions : b.errors.filter (·.isDuplicate) = (repeats definitions).map Finding.repetition

namespace Collects

variable {b : Builder} {definitions : List Finding} {f : Finding}

theorem mem_seenMetrics_iff (h : b.Collects definitions) (location : Location) (m : Metric) :
    (m.category, m.name) ∈ b.seenMetrics ↔ ¬ (Finding.metric location m).Fits definitions := by
  rw [h.seenMetrics, List.mem_reverse, h.model, ← fits_firsts]
  exact not_not.symm

theorem mem_seenPings_iff (h : b.Collects definitions) (location : Location) (q : Ping) :
    q.name ∈ b.seenPings ↔ ¬ (Finding.ping location q).Fits definitions := by
  rw [h.seenPings, List.mem_reverse, h.model, ← fits_firsts]
  exact not_not.symm

/-- A definition that repeats one adds exactly the error that says so. -/
theorem fail (h : b.Collects definitions) (hf : ¬ f.Fits definitions) :
    (b.fail f.repetition).Collects (definitions ++ [f]) where
  model := by rw [firsts_append_singleton, if_neg hf, List.append_nil]; exact h.model
  seenMetrics := h.seenMetrics
  seenPings := h.seenPings
  repetitions := by
    rw [Builder.fail, List.filter_append, h.repetitions, repeats_append_singleton, if_neg hf,
      List.map_append]
    rfl

theorem record (h : b.Collects definitions) (hf : f.isFault = false) :
    (b.record f).Collects (definitions ++ [f]) := by
  by_cases hfits : f.Fits definitions
  · have hrepeats : repeats (definitions ++ [f]) = repeats definitions := by
      rw [repeats_append_singleton, if_pos hfits, List.append_nil]
    have hfirsts : firsts (definitions ++ [f]) = firsts definitions ++ [f] := by
      rw [firsts_append_singleton, if_pos hfits]
    cases f with
    | fault e => cases hf
    | metric location m =>
      rw [Builder.record, if_neg fun hseen => (h.mem_seenMetrics_iff location m).mp hseen hfits]
      refine ⟨?_, ?_, h.seenPings, by rw [hrepeats]; exact h.repetitions⟩
      · rw [hfirsts, modelOf_append_metric, ← h.model]
      · simp [h.seenMetrics, Metric.key]
    | ping location q =>
      rw [Builder.record, if_neg fun hseen => (h.mem_seenPings_iff location q).mp hseen hfits]
      refine ⟨?_, h.seenMetrics, ?_, by rw [hrepeats]; exact h.repetitions⟩
      · rw [hfirsts, modelOf_append_ping, ← h.model]
      · simp [h.seenPings]
  · have hfail := h.fail hfits
    cases f with
    | fault e => cases hf
    | metric location m =>
      rwa [Builder.record, if_pos ((h.mem_seenMetrics_iff location m).mpr hfits)]
    | ping location q => rwa [Builder.record, if_pos ((h.mem_seenPings_iff location q).mpr hfits)]

/-- A fault leaves no trace but itself. -/
theorem record_fault (h : b.Collects definitions) {e : SchemaError} (he : e.isDuplicate = false) :
    (b.record (.fault e)).Collects definitions where
  model := h.model
  seenMetrics := h.seenMetrics
  seenPings := h.seenPings
  repetitions := by simpa [Builder.record, Builder.fail, he] using h.repetitions

end Collects

theorem collects_foldl_record (p : Policy) {fs : List Finding} (h : ∀ f ∈ fs, f.Original) :
    (fs.foldl record { policy := p }).Collects (fs.filter (!·.isFault)) := by
  induction fs using List.reverseRecOn with
  | nil => exact ⟨rfl, rfl, rfl, rfl⟩
  | append_singleton fs f ih =>
    obtain ⟨hfs, hf⟩ := List.forall_mem_append.mp h
    rw [List.foldl_append, List.foldl_cons, List.foldl_nil, List.filter_append]
    cases hfault : f.isFault with
    | false =>
      simpa [hfault] using (ih hfs).record hfault
    | true =>
      cases f with
      | fault e =>
        simpa [Finding.isFault] using (ih hfs).record_fault (hf _ (List.mem_singleton_self _))
      | _ => cases hfault

/-- A builder has collected the valid definitions of the documents added to it. -/
theorem collects_addDocuments (p : Policy) (documents : List SourceDocument) :
    (addDocuments { policy := p } documents).Collects
      (documents.flatMap (·.validDefinitions p)) := by
  obtain ⟨s, hs⟩ := addDocuments_eq { policy := p } documents
  have hcollects := collects_foldl_record p (original_findingsOf p documents)
  have hvalid : (findingsOf p documents).filter (!·.isFault) =
      documents.flatMap (·.validDefinitions p) := by
    rw [findingsOf, List.filter_flatMap]
    exact List.flatMap_congr fun d _ => d.definitions_findings
  rw [hvalid] at hcollects
  rw [hs]
  exact { hcollects with }

theorem build_eq_ok_iff {b : Builder} {model : Model} :
    b.build = .ok model ↔ b.errors = [] ∧ model = b.model := by
  rw [build]
  split
  · next h => simp [List.isEmpty_iff.mp h, eq_comm]
  · next h => simpa using fun he => absurd (List.isEmpty_iff.mpr he) h

/-- After any documents a builder has kept the first valid definition of every metric and every ping
and knows no others by name, and each later one has left the error that it is a repetition. Valid
are those of which the reading meets no problem and, for metrics, the category is accepted. Whatever
is added then comes behind what there is, and a model is built exactly if there is no error. -/
theorem addDocuments_invariant (p : Policy) (documents : List SourceDocument) :
    (addDocuments { policy := p } documents).Collects
      (documents.flatMap (·.validDefinitions p)) ∧
    (∀ d, (addDocuments { policy := p } documents).Grows
      ((addDocuments { policy := p } documents).addDocument d)) ∧
    (∀ model, (addDocuments { policy := p } documents).build = .ok model ↔
      (addDocuments { policy := p } documents).errors = [] ∧
        model = (addDocuments { policy := p } documents).model) ∧
    (∀ origin key name node,
      (∃ m, p.validMetric? origin (key, name, node) = some (.metric (.metric key name) m) ∧
        m.key = (categoryOfKey key, name)) ↔
        p.categoryProblem? key = none ∧
          (readMetric p origin (categoryOfKey key) name node).problems = []) ∧
    ∀ origin name node,
      (∃ q, p.validPing? origin (name, node) = some (.ping (.ping name) q) ∧ q.name = name) ↔
        (readPing p origin name node).problems = [] :=
  ⟨collects_addDocuments p documents, fun d => grows_addDocument _ d, fun _ => build_eq_ok_iff,
    fun _ _ _ _ => exists_validMetric?_iff, fun _ _ _ => exists_validPing?_iff⟩

/-- A definition with problems, the same without any, and that again. -/
def twinDocuments : List SourceDocument :=
  [.ofEntries "a.yaml" .metrics [("nav", .mapping [("taps", .mapping [])])],
    .ofEntries "b.yaml" .metrics [("nav", .mapping [("taps", sampleCounter "Taps.")])],
    .ofEntries "c.yaml" .metrics [("nav", .mapping [("taps", sampleCounter "Taps.")])]]

/-- The twin with problems does not keep the second from being the first. -/
theorem addDocuments_invariant_twins :
    (addDocuments { policy := ⟨{}, none⟩ } twinDocuments).model.metrics.map (·.origin) =
      ["b.yaml"] ∧
    (addDocuments { policy := ⟨{}, none⟩ } twinDocuments).errors.filter (·.isDuplicate) =
      [⟨.metric "nav" "taps", .duplicateDefinition⟩] := by
  obtain ⟨hcollects, -, -⟩ := addDocuments_invariant ⟨{}, none⟩ twinDocuments
  rw [hcollects.model, hcollects.repetitions]
  constructor
  · set_option maxRecDepth 4000 in decide
  · set_option maxRecDepth 4000 in decide

/-! ### Errors of several documents -/

theorem others_record {f : Finding} (hf : f.Original) (b : Builder) :
    (b.record f).errors.filter (!·.isDuplicate) =
      b.errors.filter (!·.isDuplicate) ++ f.fault?.toList := by
  have hrepetition : ∀ g : Finding, (b.fail g.repetition).errors.filter (!·.isDuplicate) =
      b.errors.filter (!·.isDuplicate) := by
    intro g
    simp [fail, Finding.repetition, SchemaError.isDuplicate]
  cases f with
  | fault e =>
    have he : e.isDuplicate = false := hf
    simp [record, fail, he, Finding.fault?]
  | metric location m =>
    rw [record]
    split
    · exact (hrepetition (.metric location m)).trans (List.append_nil _).symm
    · exact (List.append_nil _).symm
  | ping location q =>
    rw [record]
    split
    · exact (hrepetition (.ping location q)).trans (List.append_nil _).symm
    · exact (List.append_nil _).symm

/-- Besides repetitions a builder records the faults that are found. -/
theorem others_foldl_record {fs : List Finding} (h : ∀ f ∈ fs, f.Original) (b : Builder) :
    (fs.foldl record b).errors.filter (!·.isDuplicate) =
      b.errors.filter (!·.isDuplicate) ++ fs.filterMap Finding.fault? := by
  induction fs generalizing b with
  | nil => exact (List.append_nil _).symm
  | cons f fs ih =>
    obtain ⟨hf, hfs⟩ := List.forall_mem_cons.mp h
    rw [List.foldl_cons, ih hfs, others_record hf, List.append_assoc]
    cases f <;> rfl

end Builder

section

variable (p : Policy)

theorem others_buildErrors (documents : List SourceDocument) :
    (buildErrors p documents).filter (!·.isDuplicate) =
      (findingsOf p documents).filterMap Finding.fault? := by
  rw [buildErrors_eq, Builder.others_foldl_record (original_findingsOf p documents)]
  rfl

theorem repetitions_buildErrors (documents : List SourceDocument) :
    (buildErrors p documents).filter (·.isDuplicate) =
      (repeats (documents.flatMap (·.validDefinitions p))).map Finding.repetition := by
  obtain ⟨s, hs⟩ := Builder.addDocuments_eq { policy := p } documents
  have hrepetitions := (Builder.collects_addDocuments p documents).repetitions
  rw [hs] at hrepetitions
  rwa [buildErrors_eq]

/-- Documents are validated independently, except that one may repeat what another defines. More
documents add their errors behind those there are. Apart from repetitions, these are the errors of
either part, and what is repeated in either part is repeated in all documents together. -/
theorem buildErrors_append (ds es : List SourceDocument) :
    buildErrors p ds <+: buildErrors p (ds ++ es) ∧
    (buildErrors p (ds ++ es)).filter (!·.isDuplicate) =
      (buildErrors p ds).filter (!·.isDuplicate) ++ (buildErrors p es).filter (!·.isDuplicate) ∧
    ((buildErrors p ds).filter (·.isDuplicate) ++
      (buildErrors p es).filter (·.isDuplicate)).Sublist
        ((buildErrors p (ds ++ es)).filter (·.isDuplicate)) := by
  refine ⟨?_, ?_, ?_⟩
  · rw [buildErrors_eq, buildErrors_eq, findingsOf_append, List.foldl_append]
    exact (Builder.grows_foldl_record _ _).errors
  · simp only [others_buildErrors, findingsOf_append, List.filterMap_append]
  · simp only [repetitions_buildErrors, List.flatMap_append, ← List.map_append]
    exact (repeats_sublist_append _ _).map _

end

end TelemetryBindings
