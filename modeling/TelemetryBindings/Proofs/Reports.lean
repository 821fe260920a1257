import Mathlib.Tactic.SplitIfs
import TelemetryBindings.Definition.Document

/-!
# What is reported about a definition

A problem is inherent in a definition if neither a policy nor another definition plays a part in it.
Readers that ask no policy report nothing else. The others may object to reserved names and to
types that the target lacks, but no definition is ever told to repeat another one: only a collection
of definitions can be.
-/
namespace TelemetryBindings

/-- The problem is one of the definition alone, under every policy. -/
def Problem.isInherent : Problem → Bool
  | .reservedIdentifier .. | .unsupportedVariant _ | .duplicateDefinition => false
  | _ => true

def Problem.isDuplicate (q : Problem) : Bool := q == .duplicateDefinition

namespace Problem

variable {q : Problem}

theorem isPolicy_of_isInherent (h : q.isInherent) : q.isPolicy = false := by
  cases q <;> first | rfl | exact absurd h (by simp [isInherent])

theorem isDuplicate_of_isInherent (h : q.isInherent) : q.isDuplicate = false := by
  cases q <;> first | rfl | exact absurd h (by simp [isInherent])

end Problem

/-! ### Checked values -/

namespace Checked

variable {α β : Type} {P Q : Problem → Prop}

def Reports (P : Problem → Prop) (c : Checked α) : Prop := ∀ q ∈ c.problems, P q

abbrev Inherent (c : Checked α) : Prop := c.Reports fun q => q.isInherent

abbrev Single (c : Checked α) : Prop := c.Reports fun q => q.isDuplicate = false

theorem Reports.mono {c : Checked α} (h : c.Reports P) (hPQ : ∀ q, P q → Q q) : c.Reports Q :=
  fun q hq => hPQ q (h q hq)

theorem reports_pure (a : α) : (pure a : Checked α).Reports P :=
  fun _ hq => absurd hq List.not_mem_nil

theorem reports_singleton {a : α} {q : Problem} (hq : P q) : (⟨a, [q]⟩ : Checked α).Reports P :=
  List.forall_mem_singleton.mpr hq

theorem inherent_singleton {a : α} {q : Problem} (hq : q.isInherent) :
    (⟨a, [q]⟩ : Checked α).Inherent :=
  reports_singleton hq

theorem single_singleton {a : α} {q : Problem} (hq : q.isDuplicate = false) :
    (⟨a, [q]⟩ : Checked α).Single :=
  reports_singleton hq

theorem Reports.bind {x : Checked α} {f : α → Checked β} (hx : x.Reports P)
    (hf : ∀ a, (f a).Reports P) : (x >>= f).Reports P :=
  List.forall_mem_append.mpr ⟨hx, hf x.value⟩

theorem reports_foldlM {σ : Type} {step : σ → α → Checked σ} (h : ∀ s a, (step s a).Reports P)
    (l : List α) (s : σ) : (l.foldlM step s).Reports P := by
  induction l generalizing s with
  | nil => exact reports_pure s
  | cons a l ih => exact (h s a).bind ih

theorem Reports.clean {c : Checked (Option α)} (h : c.Reports P) : c.clean.Reports P := by
  rw [Checked.clean]
  split
  · exact h
  · exact h

theorem Inherent.single {c : Checked α} (h : c.Inherent) : c.Single :=
  h.mono fun _ => Problem.isDuplicate_of_isInherent

end Checked

/-! ### Readers that ask no policy -/

namespace Definition

open Checked

variable {d : Definition} {p : Policy} {a : Attribute}

theorem inherent_checkSchema (v : Variant) : (checkSchema v d).Inherent := by
  have hkeys : ∀ (d : Definition) (seen : List String), ∀ q ∈ keyProblems v seen d,
      q.isInherent := by
    intro d
    induction d with
    | nil => exact fun _ q hq => absurd hq List.not_mem_nil
    | cons e d ih =>
      intro seen
      rw [keyProblems]
      split_ifs
      · exact List.forall_mem_cons.mpr ⟨rfl, ih _⟩
      · exact ih _
      · exact List.forall_mem_cons.mpr ⟨rfl, ih _⟩
  exact List.forall_mem_append.mpr ⟨hkeys d [], List.forall_mem_map.mpr fun _ _ => rfl⟩

theorem inherent_read {α : Type} (expected : Expected) (view : Node → Option α) :
    (d.read a expected view).Inherent := by
  rw [read]
  split
  · exact reports_pure none
  · split
    · exact reports_pure _
    · exact inherent_singleton rfl

theorem inherent_boolOr (default : Bool) : (d.boolOr a default).Inherent :=
  (inherent_read _ _).bind fun _ => reports_pure _

theorem inherent_version : d.version.Inherent := by
  refine (inherent_read _ _).bind fun value => ?_
  split
  · exact reports_pure 0
  · split
    · exact reports_pure _
    · exact (inherent_singleton rfl).bind fun _ => reports_pure 0

theorem inherent_word (α : Type) [Vocabulary α] : (d.word α a).Inherent := by
  refine (inherent_read _ _).bind fun value => ?_
  split
  · exact reports_pure none
  · split
    · exact reports_pure _
    · exact inherent_singleton rfl

theorem inherent_wordOr {α : Type} [Vocabulary α] (default : α) :
    (d.wordOr a default).Inherent :=
  (inherent_word α).bind fun _ => reports_pure _

theorem inherent_texts (allowIntegers : Bool) (node : Node) :
    (texts a allowIntegers node).Inherent := by
  cases node with
  | list items => exact List.forall_mem_map.mpr fun _ _ => rfl
  | _ => exact inherent_singleton rfl

theorem inherent_stringList : (d.stringList a).Inherent := by
  rw [stringList]
  split
  · exact reports_pure []
  · exact inherent_texts _ _

theorem inherent_nonEmptyTexts (allowIntegers : Bool) :
    (d.nonEmptyTexts a allowIntegers).Inherent := by
  rw [nonEmptyTexts]
  split
  · exact reports_pure []
  · refine (inherent_texts _ _).bind fun values => ?_
    split
    · exact (inherent_singleton rfl).bind fun _ => reports_pure _
    · exact reports_pure _

theorem inherent_expires : d.expires.Inherent := by
  rw [expires]
  split
  · exact reports_pure none
  · split
    · exact reports_pure _
    · exact inherent_singleton rfl

theorem inherent_sendInPings (store : String) : (d.sendInPings store).Inherent := by
  have hstep : ∀ pings entry, (addPing store pings entry).Inherent := by
    intro pings entry
    rw [addPing]
    by_cases hinvalid : entry ≠ "default" ∧ ¬ Identifier.isPingName entry
    · rw [if_pos hinvalid]
      exact inherent_singleton rfl
    · simp only [if_neg hinvalid]
      by_cases hseen : pings.contains (if entry = "default" then store else entry)
      · rw [if_pos hseen]
        exact inherent_singleton rfl
      · rw [if_neg hseen]
        exact reports_pure _
  rw [sendInPings]
  split
  · exact reports_pure _
  · exact (inherent_texts _ _).bind fun _ => reports_foldlM hstep _ _

theorem inherent_labels : d.labels.Inherent := by
  have hstep : ∀ labels label, (addLabel labels label).Inherent := by
    intro labels label
    rw [addLabel]
    split
    · exact inherent_singleton rfl
    · split
      · exact inherent_singleton rfl
      · exact reports_pure _
  rw [labels]
  split
  · exact reports_pure none
  · exact (inherent_texts _ _).bind fun _ =>
      (reports_foldlM hstep _ _).bind fun _ => reports_pure _

theorem inherent_collisions (what : Subject) (seen : List (String × String))
    (keys : List String) : (⟨(), collisions what seen keys⟩ : Checked Unit).Inherent := by
  induction keys generalizing seen with
  | nil => exact reports_pure ()
  | cons key rest ih =>
    rw [collisions]
    split
    · exact List.forall_mem_cons.mpr ⟨rfl, ih _⟩
    · exact ih _

theorem inherent_extraKeyDescription (key : String) (node : Node) :
    (extraKeyDescription key node).Inherent := by
  cases node with
  | mapping entries =>
    refine List.forall_mem_append.mpr ⟨fun q hq => ?_, ?_⟩
    · obtain ⟨⟨field, value⟩, -, hproblem⟩ := List.mem_filterMap.mp hq
      by_cases hfield : field = "description"
      · cases value <;> simp only [extraKeyProblem?, hfield, if_true, Option.some.injEq,
          reduceCtorEq] at hproblem <;> exact hproblem ▸ rfl
      · simp only [extraKeyProblem?, hfield, if_false, Option.some.injEq] at hproblem
        exact hproblem ▸ rfl
    · split
      · exact fun q hq => absurd hq List.not_mem_nil
      · exact List.forall_mem_singleton.mpr rfl
  | _ => exact inherent_singleton rfl

theorem inherent_reasonDescription (code : String) (node : Node) :
    (reasonDescription code node).Inherent := by
  cases node with
  | string text => exact reports_pure _
  | _ => exact inherent_singleton rfl

theorem inherent_metricVariant : (metricVariant d).Inherent := by
  rw [metricVariant]
  split
  · exact inherent_singleton rfl
  · split
    · split
      · exact reports_pure _
      · exact inherent_singleton rfl
    · exact inherent_singleton rfl
  · exact inherent_singleton rfl

theorem inherent_distributionType : d.distributionType.Inherent := by
  refine (inherent_read _ _).bind fun _ => (inherent_read _ _).bind fun rangeMax => ?_
  split
  · exact reports_pure none
  · refine (inherent_read _ _).bind fun bucketCount => ?_
    split
    · exact reports_pure none
    · refine (inherent_word _).bind fun histogram => ?_
      split
      · exact reports_pure none
      · exact (inherent_read _ _).bind fun _ => reports_pure _

theorem inherent_stores (v : Variant) (type : Option MetricType) :
    (d.stores v type).Inherent := by
  cases type with
  | none => exact reports_pure none
  | some type => exact (inherent_sendInPings _).bind fun _ => reports_pure _

/-! ### Readers under a policy -/

section

variable {what : Subject} {maxLength : Nat}
  {description : String → Node → Checked (Option String)} {repeated : String → Problem}

theorem single_addKey (hd : ∀ key node, (description key node).Inherent)
    (hr : ∀ key, (repeated key).isInherent) (m : OrderedMap String) (entry : String × Node) :
    (addKey p what maxLength description repeated m entry).Single := by
  obtain ⟨key, node⟩ := entry
  have hguarded : ∀ rest : Checked (OrderedMap String), rest.Inherent →
      Checked.Single (if ¬Identifier.isIdentifier key maxLength then do
          report (.invalidIdentifier what key)
          return m
        else if p.reserves key then do
          report (.reservedIdentifier what key)
          rest
        else rest) := by
    intro rest hrest
    split
    · exact (single_singleton rfl).bind fun _ => reports_pure m
    · split
      · exact (single_singleton rfl).bind fun _ => hrest.single
      · exact hrest.single
  refine hguarded _ ((hd key node).bind fun text => ?_)
  split
  · exact reports_pure m
  · split
    · exact reports_pure _
    · exact (inherent_singleton (hr _)).bind fun _ => reports_pure m

theorem single_keyedTexts (hd : ∀ key node, (description key node).Inherent)
    (hr : ∀ key, (repeated key).isInherent) :
    (d.keyedTexts a p what maxLength description repeated).Single := by
  rw [keyedTexts]
  split
  · exact reports_pure _
  · refine (reports_foldlM (single_addKey hd hr) _ _).bind fun m => ?_
    exact (inherent_collisions _ _ _).single.bind fun _ => reports_pure m
  · exact single_singleton rfl

end

theorem single_checkMetricName (name : String) : (checkMetricName p name).Single := by
  rw [checkMetricName]
  split
  · exact single_singleton rfl
  · split
    · exact single_singleton rfl
    · exact reports_pure ()

theorem single_checkPingName (name : String) : (checkPingName p name).Single := by
  rw [checkPingName]
  split
  · exact single_singleton rfl
  · split
    · exact single_singleton rfl
    · exact reports_pure ()

theorem single_checkSupport (v : Variant) : (checkSupport p v).Single := by
  rw [checkSupport]
  split
  · exact single_singleton rfl
  · exact reports_pure ()

theorem single_metricType (v : Variant) : (d.metricType p v).Single := by
  cases v with
  | event =>
    have hkeys : (d.extraKeys p).Single :=
      single_keyedTexts inherent_extraKeyDescription fun _ => rfl
    exact hkeys.bind fun _ => reports_pure _
  | customDistribution => exact inherent_distributionType.single
  | datetime | memoryDistribution | timespan | timingDistribution =>
    exact (inherent_wordOr _).single.bind fun _ => reports_pure _
  | labeledBoolean | labeledCounter | labeledString =>
    exact inherent_labels.single.bind fun _ => reports_pure _
  | quantity => exact (inherent_read _ _).single.bind fun _ => reports_pure _
  | _ => exact reports_pure _

theorem single_metricOf (origin category name : String) (v : Variant) :
    (d.metricOf p origin category name v).Single :=
  (inherent_checkSchema v).single.bind fun _ => (single_checkMetricName name).bind fun _ =>
    (single_checkSupport v).bind fun _ => (inherent_read _ _).single.bind fun _ =>
    (inherent_nonEmptyTexts _).single.bind fun _ => inherent_stringList.single.bind fun _ =>
    (inherent_nonEmptyTexts _).single.bind fun _ => inherent_expires.single.bind fun _ =>
    (inherent_wordOr _).single.bind fun _ => (inherent_boolOr _).single.bind fun _ =>
    inherent_version.single.bind fun _ => (single_metricType v).bind fun type =>
    (inherent_stores v type).single.bind fun _ => reports_pure _

theorem single_pingOf (origin name : String) : (d.pingOf p origin name).Single :=
  (inherent_checkSchema .ping).single.bind fun _ => (single_checkPingName name).bind fun _ =>
    (single_checkSupport .ping).bind fun _ => (inherent_read _ _).single.bind fun _ =>
    (inherent_read _ _).single.bind fun _ => (inherent_boolOr _).single.bind fun _ =>
    (inherent_nonEmptyTexts _).single.bind fun _ => inherent_stringList.single.bind fun _ =>
    (inherent_nonEmptyTexts _).single.bind fun _ =>
    (single_keyedTexts inherent_reasonDescription fun _ => rfl).bind fun _ => reports_pure _

end Definition

theorem single_readMetric (p : Policy) (origin category name : String) (node : Node) :
    (readMetric p origin category name node).Single := by
  cases node with
  | mapping d =>
    refine Checked.Reports.clean (Definition.inherent_metricVariant.single.bind fun v => ?_)
    cases v with
    | none => exact Checked.reports_pure _
    | some v => exact Definition.single_metricOf origin category name v
  | _ => exact Checked.single_singleton rfl

theorem single_readPing (p : Policy) (origin name : String) (node : Node) :
    (readPing p origin name node).Single := by
  cases node with
  | mapping d => exact (Definition.single_pingOf origin name).clean
  | _ => exact Checked.single_singleton rfl

/-- What keeps a document from being opened is wrong with it under every policy. -/
theorem SourceDocument.isInherent_of_open? {d : SourceDocument} {problem : Problem}
    (h : d.open? = .error problem) : problem.isInherent := by
  rw [open?] at h
  split at h
  · split at h
    · exact Except.error.inj h ▸ rfl
    · split at h
      · cases h
      · exact Except.error.inj h ▸ rfl
    · exact Except.error.inj h ▸ rfl
  · exact Except.error.inj h ▸ rfl

end TelemetryBindings
