import TelemetryBindings.Proofs.Definitions
import TelemetryBindings.Proofs.Reports
import TelemetryBindings.Target.Registry

/-!
# What a policy adds

A policy objects to names that are reserved and to types that its target lacks, and changes nothing
else in what is read. Without it the same definitions have the same other problems, in the same
order, and only more of them are kept, so that some may turn out to be defined twice. A build that
succeeds under a policy succeeds without it and gives the same model.
-/
namespace TelemetryBindings

/-- The expiry settings of a policy, under which nothing is reserved and every type is supported. -/
def Policy.lenient (p : Policy) : Policy where
  options := { p.options with allowReserved := true }
  target := none

namespace Policy

variable (p : Policy)

@[simp] theorem reserves_lenient (name : String) : p.lenient.reserves name = false := rfl

@[simp] theorem reservesCategory_lenient (key : String) :
    p.lenient.reservesCategory key = false := rfl

@[simp] theorem reservesPing_lenient (name : String) : p.lenient.reservesPing name = false := rfl

@[simp] theorem unsupported?_lenient (v : Variant) : p.lenient.unsupported? v = none := rfl

/-- Whether a metric has expired does not depend on the rest of a policy. -/
@[simp] theorem isExpired_lenient (e : Expiry) :
    e.isExpired p.lenient.options = e.isExpired p.options := by
  cases e <;> rfl

theorem categoryProblem?_lenient (key : String) :
    p.lenient.categoryProblem? key = (p.categoryProblem? key).filter (!·.isPolicy) := by
  rw [categoryProblem?, categoryProblem?, reservesCategory_lenient]
  split_ifs <;> simp_all [Option.filter, Problem.isPolicy]

end Policy

/-! ### Checked values without objections of policy -/

namespace Checked

variable {α β : Type}

/-- Nothing but malformed input is recorded. -/
def relax (c : Checked α) : Checked α := ⟨c.value, c.problems.filter (!·.isPolicy)⟩

@[simp] theorem relax_pure (a : α) : (pure a : Checked α).relax = pure a := rfl

@[simp] theorem relax_bind (x : Checked α) (f : α → Checked β) :
    (x >>= f).relax = x.relax >>= fun a => (f a).relax := by
  rw [relax, problems_bind, List.filter_append]
  rfl

theorem Inherent.relax_eq {c : Checked α} (h : c.Inherent) : c.relax = c := by
  rw [relax, List.filter_eq_self.mpr]
  intro q hq
  rw [Problem.isPolicy_of_isInherent (h q hq)]
  rfl

theorem relax_foldlM {σ : Type} (step : σ → α → Checked σ) (l : List α) (s : σ) :
    (l.foldlM step s).relax = l.foldlM (fun s a => (step s a).relax) s := by
  induction l generalizing s with
  | nil => rfl
  | cons a l ih =>
    rw [List.foldlM_cons, List.foldlM_cons, relax_bind]
    simp only [ih]

end Checked

namespace Definition

open Checked

variable {d : Definition} {p : Policy} {a : Attribute}

/-! ### Readers under a policy -/

section

variable {what : Subject} {maxLength : Nat}
  {description : String → Node → Checked (Option String)} {repeated : String → Problem}

/-- A reserved key is recorded and then read like any other. -/
theorem addKey_relax (hd : ∀ key node, (description key node).Inherent)
    (hr : ∀ key, (repeated key).isInherent) (m : OrderedMap String)
    (entry : String × Node) :
    (addKey p what maxLength description repeated m entry).relax =
      addKey p.lenient what maxLength description repeated m entry := by
  obtain ⟨key, node⟩ := entry
  have hguarded : ∀ rest : Checked (OrderedMap String), rest.Inherent →
      Checked.relax (if ¬Identifier.isIdentifier key maxLength then do
          report (.invalidIdentifier what key)
          return m
        else if p.reserves key then do
          report (.reservedIdentifier what key)
          rest
        else rest) =
      if ¬Identifier.isIdentifier key maxLength then do
        report (.invalidIdentifier what key)
        return m
      else rest := by
    intro rest hrest
    split
    · rfl
    · split
      -- The objection is dropped before the rest of the entry is read.
      · exact (relax_bind _ _).trans hrest.relax_eq
      · exact hrest.relax_eq
  refine hguarded _ ((hd key node).bind fun text => ?_)
  split
  · exact reports_pure m
  · split
    · exact reports_pure _
    · exact (inherent_singleton (hr _)).bind fun _ => reports_pure m

theorem keyedTexts_relax (hd : ∀ key node, (description key node).Inherent)
    (hr : ∀ key, (repeated key).isInherent) :
    (d.keyedTexts a p what maxLength description repeated).relax =
      d.keyedTexts a p.lenient what maxLength description repeated := by
  rw [keyedTexts, keyedTexts]
  split
  · rfl
  · simp only [relax_bind, relax_foldlM, addKey_relax hd hr, relax_pure,
      (inherent_collisions _ _ _).relax_eq]
  · rfl

end

theorem checkMetricName_relax (name : String) :
    (checkMetricName p name).relax = checkMetricName p.lenient name := by
  rw [checkMetricName, checkMetricName, Policy.reserves_lenient]
  split
  · rfl
  · split <;> rfl

theorem checkPingName_relax (name : String) :
    (checkPingName p name).relax = checkPingName p.lenient name := by
  rw [checkPingName, checkPingName, Policy.reservesPing_lenient]
  split
  · rfl
  · split <;> rfl

theorem checkSupport_relax (v : Variant) :
    (checkSupport p v).relax = checkSupport p.lenient v := by
  rw [checkSupport, checkSupport, Policy.unsupported?_lenient]
  split <;> rfl

theorem metricType_relax (v : Variant) : (d.metricType p v).relax = d.metricType p.lenient v := by
  have hlabeled : ∀ inner, (d.labeledType inner).Inherent :=
    fun _ => inherent_labels.bind fun _ => reports_pure _
  cases v with
  | customDistribution => exact inherent_distributionType.relax_eq
  | datetime | memoryDistribution | timespan | timingDistribution =>
    exact Inherent.relax_eq ((inherent_wordOr _).bind fun _ => reports_pure _)
  | event =>
    have hrepeated : ∀ key, (Problem.duplicateExtraKey key).isInherent := fun _ => rfl
    simp only [metricType, extraKeys, relax_bind, relax_pure,
      keyedTexts_relax inherent_extraKeyDescription hrepeated]
  | labeledBoolean | labeledCounter | labeledString => exact (hlabeled _).relax_eq
  | quantity => exact Inherent.relax_eq ((inherent_read _ _).bind fun _ => reports_pure _)
  | _ => rfl

theorem metricOf_relax (origin category name : String) (v : Variant) :
    (d.metricOf p origin category name v).relax =
      d.metricOf p.lenient origin category name v := by
  simp only [metricOf, relax_bind, relax_pure, (inherent_checkSchema v).relax_eq,
    checkMetricName_relax, checkSupport_relax, string, (inherent_read _ _).relax_eq, bugs,
    (inherent_nonEmptyTexts _).relax_eq, inherent_stringList.relax_eq, nonEmptyStringList,
    inherent_expires.relax_eq, (inherent_wordOr _).relax_eq, (inherent_boolOr _).relax_eq,
    inherent_version.relax_eq, metricType_relax, (inherent_stores v _).relax_eq,
    Policy.isExpired_lenient]

theorem pingOf_relax (origin name : String) :
    (d.pingOf p origin name).relax = d.pingOf p.lenient origin name := by
  have hrepeated : ∀ key, (Problem.duplicateEntry .reason key).isInherent := fun _ => rfl
  simp only [pingOf, relax_bind, relax_pure, (inherent_checkSchema .ping).relax_eq,
    checkPingName_relax, checkSupport_relax, string, bool, (inherent_read _ _).relax_eq, bugs,
    (inherent_nonEmptyTexts _).relax_eq, inherent_stringList.relax_eq, nonEmptyStringList,
    (inherent_boolOr _).relax_eq, reasons,
    keyedTexts_relax inherent_reasonDescription hrepeated]

end Definition

/-! ### Definitions under a policy -/

/-- Without the policy there are the same problems but for its objections, and a value that was kept
is kept still. -/
structure Checked.Eases {α : Type} (c c' : Checked (Option α)) : Prop where
  problems : c'.problems = c.problems.filter (!·.isPolicy)
  value : c.value = none ∨ c.value = c'.value
  same : c.problems = [] → c' = c

theorem Checked.eases_clean {α : Type} (c : Checked (Option α)) : c.clean.Eases c.relax.clean := by
  rw [clean, clean]
  by_cases hc : c.problems.isEmpty
  · have hempty := List.isEmpty_iff.mp hc
    have hrelax : c.relax = c := by
      rw [relax, hempty, List.filter_nil, ← hempty]
    rw [hrelax, if_pos hc]
    exact ⟨by rw [hempty]; rfl, Or.inr rfl, fun _ => rfl⟩
  · rw [if_neg hc]
    refine ⟨?_, Or.inl rfl, fun h => absurd (List.isEmpty_iff.mpr h) hc⟩
    split <;> rfl

theorem Checked.eases_clean_of_relax_eq {α : Type} {c c' : Checked (Option α)}
    (h : c.relax = c') : c.clean.Eases c'.clean :=
  h ▸ eases_clean c

section

variable {p : Policy} {origin name : String} {node : Node}

theorem eases_readMetric (category : String) :
    (readMetric p origin category name node).Eases
      (readMetric p.lenient origin category name node) := by
  cases node with
  | mapping d =>
    refine Checked.eases_clean_of_relax_eq ?_
    rw [Checked.relax_bind, Definition.inherent_metricVariant.relax_eq]
    congr 1
    funext v
    cases v with
    | none => rfl
    | some v => exact Definition.metricOf_relax origin category name v
  | _ => exact ⟨rfl, Or.inl rfl, fun _ => rfl⟩

theorem eases_readPing :
    (readPing p origin name node).Eases (readPing p.lenient origin name node) := by
  cases node with
  | mapping d =>
    exact Checked.eases_clean_of_relax_eq (Definition.pingOf_relax origin name)
  | _ => exact ⟨rfl, Or.inl rfl, fun _ => rfl⟩

end

/-! ### Findings under a policy -/

def Finding.isPolicy : Finding → Bool
  | .fault e => e.isPolicy
  | _ => false

/-- The second findings are the first without objections of policy, and with more that was found
fit to be kept. -/
inductive Finding.Eases : List Finding → List Finding → Prop
  | nil : Eases [] []
  | same {fs gs : List Finding} (f : Finding) : f.isPolicy = false → Eases fs gs →
    Eases (f :: fs) (f :: gs)
  | lifted {fs gs : List Finding} (e : SchemaError) : e.isPolicy → Eases fs gs →
    Eases (.fault e :: fs) gs
  | admitted {fs gs : List Finding} (f : Finding) : f.isFault = false → Eases fs gs →
    Eases fs (f :: gs)

theorem Finding.isPolicy_of_isFault {f : Finding} (h : f.isFault = false) : f.isPolicy = false := by
  cases f with
  | fault e => exact absurd h (by simp [isFault])
  | _ => rfl

namespace Finding.Eases

variable {fs fs' gs gs' : List Finding}

theorem append (h : Eases fs gs) (h' : Eases fs' gs') : Eases (fs ++ fs') (gs ++ gs') := by
  induction h with
  | nil => exact h'
  | same f hf _ ih => exact same f hf ih
  | lifted e he _ ih => exact lifted e he ih
  | admitted f hf _ ih => exact admitted f hf ih

theorem flatMap {α : Type} {l : List α} {f g : α → List Finding}
    (h : ∀ a ∈ l, Eases (f a) (g a)) : Eases (l.flatMap f) (l.flatMap g) := by
  induction l with
  | nil => exact nil
  | cons a l ih =>
    obtain ⟨ha, hl⟩ := List.forall_mem_cons.mp h
    exact ha.append (ih hl)

theorem all_same (h : ∀ f ∈ fs, f.isPolicy = false) : Eases fs fs := by
  induction fs with
  | nil => exact nil
  | cons f fs ih =>
    obtain ⟨hf, hfs⟩ := List.forall_mem_cons.mp h
    exact same f hf (ih hfs)

theorem all_admitted (h : ∀ f ∈ gs, f.isFault = false) : Eases [] gs := by
  induction gs with
  | nil => exact nil
  | cons f gs ih =>
    obtain ⟨hf, hgs⟩ := List.forall_mem_cons.mp h
    exact admitted f hf (ih hgs)

theorem faults (location : Location) (problems : List Problem) :
    Eases (problems.map fun q => .fault ⟨location, q⟩)
      ((problems.filter (!·.isPolicy)).map fun q => .fault ⟨location, q⟩) := by
  induction problems with
  | nil => exact nil
  | cons q problems ih =>
    cases hq : q.isPolicy with
    | true => simpa [hq] using lifted ⟨location, q⟩ hq ih
    | false => simpa [hq] using same (.fault ⟨location, q⟩) hq ih

end Finding.Eases

/-- A definition that is kept under the policy is kept without it. -/
theorem Checked.Eases.findings {α : Type} {c c' : Checked (Option α)} (h : c.Eases c')
    (location : Location) {keep keep' : Option (α → Finding)} (hkeep : keep = none ∨ keep = keep')
    (hfault : ∀ f ∈ keep', ∀ a, (f a).isFault = false) :
    Finding.Eases (c.findings location keep) (c'.findings location keep') := by
  rw [Checked.findings, Checked.findings, h.problems]
  refine (Finding.Eases.faults location c.problems).append ?_
  have hkept : ∀ f ∈ (keep'.bind fun f => c'.value.map f).toList, f.isFault = false :=
    fun _ hf => isFault_of_mem_kept hfault hf
  rcases hkeep with rfl | rfl
  · exact Finding.Eases.all_admitted hkept
  · rcases h.value with hnone | hsame
    · have hempty : (keep.bind fun f => c.value.map f).toList = [] := by
        cases keep <;> simp [hnone]
      rw [hempty]
      exact Finding.Eases.all_admitted hkept
    · rw [hsame]
      exact Finding.Eases.all_same fun f hf => Finding.isPolicy_of_isFault (hkept f hf)

section

variable {p : Policy} {origin : String}

theorem eases_metricFindings (key : String) {accepted accepted' : Bool}
    (h : accepted = true → accepted' = true) (e : String × Node) :
    Finding.Eases (metricFindings p origin key accepted e)
      (metricFindings p.lenient origin key accepted' e) := by
  refine (eases_readMetric (categoryOfKey key)).findings (.metric key e.1) ?_ fun _ =>
    isFault_of_keptMetric
  cases accepted with
  | false => exact Or.inl rfl
  | true => exact Or.inr (by rw [h rfl])

theorem eases_pingFindings (e : String × Node) :
    Finding.Eases (pingFindings p origin e) (pingFindings p.lenient origin e) :=
  eases_readPing.findings (.ping e.1) (Or.inr rfl) fun _ => isFault_of_keptPing

/-- A category under a reserved key is refused by the policy only. -/
theorem eases_categoryFindings (e : String × Node) :
    Finding.Eases (categoryFindings p origin e) (categoryFindings p.lenient origin e) := by
  obtain ⟨key, node⟩ := e
  have hflaw : Finding.Eases
      ((p.categoryProblem? key).toList.map fun q => .fault ⟨.document origin, q⟩)
      ((p.lenient.categoryProblem? key).toList.map fun q => .fault ⟨.document origin, q⟩) := by
    rw [p.categoryProblem?_lenient, Option.toList_filter]
    exact Finding.Eases.faults (.document origin) (p.categoryProblem? key).toList
  have haccepted : (p.categoryProblem? key).isNone = true →
      (p.lenient.categoryProblem? key).isNone = true := by
    rw [p.categoryProblem?_lenient]
    cases p.categoryProblem? key <;> simp
  cases node with
  | mapping ms =>
    exact hflaw.append (Finding.Eases.flatMap fun e _ => eases_metricFindings key haccepted e)
  | _ => exact hflaw.append (Finding.Eases.same _ rfl .nil)

theorem eases_findings (d : SourceDocument) :
    Finding.Eases (d.findings p) (d.findings p.lenient) := by
  rw [SourceDocument.findings, SourceDocument.findings]
  cases hopen : d.open? with
  | error problem =>
    exact Finding.Eases.all_same
      (List.forall_mem_singleton.mpr
        (Problem.isPolicy_of_isInherent (SourceDocument.isInherent_of_open? hopen)))
  | ok opened =>
    obtain ⟨kind, entries⟩ := opened
    cases kind with
    | metrics => exact Finding.Eases.flatMap fun e _ => eases_categoryFindings e
    | pings => exact Finding.Eases.flatMap fun e _ => eases_pingFindings e

theorem eases_findingsOf (p : Policy) (documents : List SourceDocument) :
    Finding.Eases (findingsOf p documents) (findingsOf p.lenient documents) :=
  Finding.Eases.flatMap fun d _ => eases_findings d

theorem metricFindings_lenient {key : String} {e : String × Node}
    (h : (p.metricReading (key, e)).problems = []) :
    metricFindings p.lenient origin key true e = metricFindings p origin key true e := by
  have hread : (readMetric p origin (categoryOfKey key) e.1 e.2).problems = [] :=
    readMetric_origin.1.trans h
  rw [metricFindings, metricFindings, (eases_readMetric _).same hread]

theorem pingFindings_lenient {e : String × Node} (h : (p.pingReading e).problems = []) :
    pingFindings p.lenient origin e = pingFindings p origin e := by
  have hread : (readPing p origin e.1 e.2).problems = [] := readPing_origin.1.trans h
  rw [pingFindings, pingFindings, eases_readPing.same hread]

/-- Where the policy finds no problem, the same is found without it. -/
theorem findings_lenient {d : SourceDocument} (h : d.Flawless p) :
    d.findings p.lenient = d.findings p := by
  obtain ⟨⟨⟨kind, hkind⟩, hshape⟩, hcategories, hmetrics, hpings⟩ := h
  rw [SourceDocument.categoryKeys, List.forall_mem_map] at hcategories
  rw [SourceDocument.metricDefinitions, List.forall_mem_flatMap] at hmetrics
  have hcategory : ∀ e ∈ d.rootDefinitions .metrics,
      categoryFindings p.lenient d.origin e = categoryFindings p d.origin e := by
    intro e he
    obtain ⟨ms, hms⟩ := hshape e he
    have hproblems := List.forall_mem_map.mp (hmetrics e he)
    have hflaw := hcategories e he
    obtain ⟨key, node⟩ := e
    subst hms
    have hlenient : p.lenient.categoryProblem? key = none := by
      rw [p.categoryProblem?_lenient, hflaw]
      rfl
    rw [categoryFindings_eq hlenient, categoryFindings_eq hflaw]
    exact List.flatMap_congr fun m hm => metricFindings_lenient (hproblems m hm)
  rw [SourceDocument.findings_eq hkind, SourceDocument.findings_eq hkind,
    List.flatMap_congr hcategory,
    List.flatMap_congr fun e he => pingFindings_lenient (hpings e he)]

theorem buildModel_lenient {documents : List SourceDocument} {model : Model}
    (h : buildModel p documents = .ok model) : buildModel p.lenient documents = .ok model := by
  obtain ⟨ha, hmodel⟩ := buildModel_eq_ok_iff.mp h
  have hfindings : findingsOf p.lenient documents = findingsOf p documents :=
    List.flatMap_congr fun d hd => findings_lenient ((acceptable_findingsOf_iff.mp ha).1 d hd)
  rw [← hfindings] at ha hmodel
  exact buildModel_eq_ok_iff.mpr ⟨ha, hmodel⟩

end

/-! ### Builds under a policy -/

/-- The second builder met more that was fit to be kept, and recorded no objection of policy. -/
structure Builder.Eases (b b' : Builder) : Prop where
  metrics : b.seenMetrics ⊆ b'.seenMetrics
  pings : b.seenPings ⊆ b'.seenPings
  impartial : ∀ e ∈ b'.errors, e.isPolicy = false
  sublist : (b.errors.filter (!·.isPolicy)).Sublist b'.errors
  others : (b.errors.filter (!·.isPolicy)).filter (!·.isDuplicate) =
    b'.errors.filter (!·.isDuplicate)

namespace Builder.Eases

variable {b b' : Builder}

/-- Both builders record the same error. -/
theorem fail (h : Eases b b') {e : SchemaError} (he : e.isPolicy = false) :
    Eases (b.fail e) (b'.fail e) where
  metrics := h.metrics
  pings := h.pings
  impartial := List.forall_mem_append.mpr ⟨h.impartial, List.forall_mem_singleton.mpr he⟩
  sublist := by
    simp only [Builder.fail, List.filter_append, List.filter_singleton, he]
    exact h.sublist.append (List.Sublist.refl _)
  others := by
    have hrest := h.others
    simp only [Builder.fail, List.filter_append, hrest]
    simp [he]

/-- An objection of policy is recorded on one side only. -/
theorem lifted (h : Eases b b') {e : SchemaError} (he : e.isPolicy) : Eases (b.fail e) b' where
  metrics := h.metrics
  pings := h.pings
  impartial := h.impartial
  sublist := by simpa [Builder.fail, he] using h.sublist
  others := by simpa [Builder.fail, he] using h.others

/-- More that is found fit to be kept is kept, or was defined before. -/
theorem admitted (h : Eases b b') {f : Finding} (hf : f.isFault = false) :
    Eases b (b'.record f) := by
  have hduplicate : ∀ location, Eases b (b'.fail ⟨location, .duplicateDefinition⟩) := by
    intro location
    refine ⟨h.metrics, h.pings, ?_, h.sublist.trans (List.sublist_append_left _ _), ?_⟩
    · exact List.forall_mem_append.mpr ⟨h.impartial, List.forall_mem_singleton.mpr rfl⟩
    · rw [h.others, Builder.fail, List.filter_append]
      simp [SchemaError.isDuplicate]
  cases f with
  | fault e => exact absurd hf (by simp [Finding.isFault])
  | metric location m =>
    rw [Builder.record]
    split
    · exact hduplicate location
    · exact { h with metrics := fun k hk => List.mem_cons_of_mem _ (h.metrics hk) }
  | ping location q =>
    rw [Builder.record]
    split
    · exact hduplicate location
    · exact { h with pings := fun k hk => List.mem_cons_of_mem _ (h.pings hk) }

/-- What both builders meet is defined before on the second side if it is on the first. -/
theorem record (h : Eases b b') {f : Finding} (hf : f.isPolicy = false) :
    Eases (b.record f) (b'.record f) := by
  cases f with
  | fault e => exact h.fail hf
  | metric location m =>
    by_cases hb : (m.category, m.name) ∈ b.seenMetrics
    · rw [Builder.record, Builder.record, if_pos hb, if_pos (h.metrics hb)]
      exact h.fail rfl
    · have hstep := h.admitted (f := .metric location m) rfl
      rw [Builder.record, if_neg hb]
      refine { hstep with metrics := List.cons_subset.mpr ⟨?_, hstep.metrics⟩ }
      rw [Builder.record]
      split
      · assumption
      · exact List.mem_cons_self
  | ping location q =>
    by_cases hb : q.name ∈ b.seenPings
    · rw [Builder.record, Builder.record, if_pos hb, if_pos (h.pings hb)]
      exact h.fail rfl
    · have hstep := h.admitted (f := .ping location q) rfl
      rw [Builder.record, if_neg hb]
      refine { hstep with pings := List.cons_subset.mpr ⟨?_, hstep.pings⟩ }
      rw [Builder.record]
      split
      · assumption
      · exact List.mem_cons_self

theorem foldl_record {fs gs : List Finding} (hf : Finding.Eases fs gs) (h : Eases b b') :
    Eases (fs.foldl Builder.record b) (gs.foldl Builder.record b') := by
  induction hf generalizing b b' with
  | nil => exact h
  | same f hf _ ih => exact ih (h.record hf)
  | lifted e he _ ih => exact ih (h.lifted he)
  | admitted f hf _ ih => exact ih (h.admitted hf)

end Builder.Eases

/-- A policy adds nothing but its own objections. Without it a build records all other errors in
the same order, and beyond them only that something was defined before; a build that succeeds still
succeeds, with the same model. So policies with the same expiry settings that accept the same
documents give one model. -/
theorem buildErrors_lenient (p : Policy) (documents : List SourceDocument) :
    (∀ e ∈ buildErrors p.lenient documents, e.isPolicy = false) ∧
    ((buildErrors p documents).filter (!·.isPolicy)).Sublist (buildErrors p.lenient documents) ∧
    ((buildErrors p documents).filter (!·.isPolicy)).filter (!·.isDuplicate) =
      (buildErrors p.lenient documents).filter (!·.isDuplicate) ∧
    (∀ model, buildModel p documents = .ok model → buildModel p.lenient documents = .ok model) ∧
    ∀ p' : Policy, p'.options.expireByVersion = p.options.expireByVersion →
      p'.options.expirationDate = p.options.expirationDate →
      ∀ model model', buildModel p documents = .ok model → buildModel p' documents = .ok model' →
        model = model' := by
  have hstart : Builder.Eases { policy := p } { policy := p.lenient } :=
    ⟨List.Subset.refl _, List.Subset.refl _, fun _ he => absurd he List.not_mem_nil,
      List.Sublist.refl _, rfl⟩
  have hbuilders := hstart.foldl_record (eases_findingsOf p documents)
  rw [buildErrors_eq, buildErrors_eq]
  refine ⟨hbuilders.impartial, hbuilders.sublist, hbuilders.others, fun _ => buildModel_lenient, ?_⟩
  intro p' hversion hdate model model' hmodel hmodel'
  have hlenient : p'.lenient = p.lenient := by
    simp only [Policy.lenient, hversion, hdate]
  have hsame := buildModel_lenient hmodel'
  rw [hlenient, buildModel_lenient hmodel] at hsame
  exact Except.ok.inj hsame

def keywordDocuments : List SourceDocument :=
  [SourceDocument.ofEntries "a.yaml" .metrics [("in", .mapping [("taps", sampleCounter "Taps.")])],
    SourceDocument.ofEntries "b.yaml" .metrics [("in", .mapping [("taps", sampleCounter "Taps.")])]]

/-- The policy hides that the metric is defined twice; either document alone gives one model under
all policies that accept it. -/
theorem buildErrors_lenient_keyword :
    (buildErrors ⟨{}, some (.kotlin (.ofNamespaces {}))⟩ keywordDocuments).map (·.isPolicy) =
      [true, true] ∧
    (∀ e ∈ buildErrors ⟨{ allowReserved := true }, none⟩ keywordDocuments, e.isDuplicate) ∧
    ∃ model, buildModel ⟨{}, none⟩ (keywordDocuments.take 1) = .ok model ∧
      buildModel ⟨{ allowReserved := true }, some .javascript⟩ (keywordDocuments.take 1) =
        .ok model := by
  have hpolicy : (buildErrors ⟨{}, some (.kotlin (.ofNamespaces {}))⟩ keywordDocuments).map
      (·.isPolicy) = [true, true] := by
    set_option maxRecDepth 4000 in decide
  have hfiltered : (buildErrors ⟨{}, some (.kotlin (.ofNamespaces {}))⟩ keywordDocuments).filter
      (!·.isPolicy) = [] := by
    set_option maxRecDepth 4000 in decide
  refine ⟨hpolicy, fun e he => ?_, ?_⟩
  · have hothers := (buildErrors_lenient ⟨{}, some (.kotlin (.ofNamespaces {}))⟩
      keywordDocuments).2.2.1
    rw [hfiltered] at hothers
    simpa using List.filter_eq_nil_iff.mp hothers.symm e he
  · have hok : (buildModel ⟨{}, none⟩ (keywordDocuments.take 1)).isOk = true := by
      set_option maxRecDepth 4000 in decide
    have hok' : (buildModel ⟨{ allowReserved := true }, some .javascript⟩
        (keywordDocuments.take 1)).isOk = true := by
      set_option maxRecDepth 4000 in decide
    obtain ⟨model, h⟩ := exists_eq_ok_of_isOk hok
    obtain ⟨model', h'⟩ := exists_eq_ok_of_isOk hok'
    have hsame := (buildErrors_lenient ⟨{}, none⟩ (keywordDocuments.take 1)).2.2.2.2
      ⟨{ allowReserved := true }, some .javascript⟩ rfl rfl model model' h h'
    exact ⟨model, h, hsame ▸ h'⟩

end TelemetryBindings
