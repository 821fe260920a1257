import Mathlib.Tactic.SplitIfs
import Mathlib.Tactic.ByContra
import TelemetryBindings.Proofs.Compiling

/-!
# What validation admits

Every instrument of a model was checked by name and by type: its names follow their grammars and,
where the policy reserves names, are none of the reserved ones, and its type is one that the target
can express. Grammars look at the declared spelling of a name only.
-/
namespace TelemetryBindings

open Identifier

/-- The name may stand for a metric, an extra key or a reason code. -/
structure Policy.AdmitsName (p : Policy) (maxLength : Nat) (name : String) : Prop where
  grammar : isIdentifier name maxLength
  unreserved : p.reserves name = false

structure Metric.Admitted (p : Policy) (m : Metric) : Prop where
  category : ∃ key, p.categoryProblem? key = none ∧ m.category = categoryOfKey key
  name : p.AdmitsName maxNameLength m.name
  support : p.unsupported? m.variant = none
  stores : ∀ store ∈ m.sendInPings, isPingName store
  keys : ∀ extraKeys, m.type = .event extraKeys →
    ∀ key ∈ extraKeys.keys, p.AdmitsName maxExtraKeyLength key
  labels : ∀ inner labels, m.type = .labeled inner (some labels) → ∀ label ∈ labels, isLabel label

structure Ping.Admitted (p : Policy) (q : Ping) : Prop where
  grammar : isPingName q.name
  unreserved : p.reservesPing q.name = false
  support : p.unsupported? .ping = none
  reasons : ∀ code ∈ q.reasons.keys, p.AdmitsName maxNameLength code

def Instrument.Admitted (p : Policy) : Instrument → Prop
  | .metric m => m.Admitted p
  | .ping q => q.Admitted p

/-- What every step without problems keeps, a fold without problems keeps. -/
theorem Checked.foldlM_induction {σ α : Type} {f : σ → α → Checked σ} {P : σ → Prop}
    (hf : ∀ s a, (f s a).problems = [] → P s → P (f s a).value) (l : List α) {s : σ}
    (hl : (l.foldlM f s).problems = []) (h : P s) : P (l.foldlM f s).value := by
  induction l generalizing s with
  | nil => exact h
  | cons a l ih =>
    obtain ⟨ha, hrest⟩ := List.append_eq_nil_iff.mp hl
    exact ih hrest (hf s a ha h)

namespace Definition

variable {d : Definition} {p : Policy}

/-! ### Pings, labels and keys -/

theorem isPingName_addPing {store : String} (hstore : isPingName store) (pings : List String)
    (entry : String) (h : ∀ t ∈ pings, isPingName t) :
    ∀ t ∈ (addPing store pings entry).value, isPingName t := by
  by_cases hinvalid : entry ≠ "default" ∧ ¬ isPingName entry
  · rwa [addPing, if_pos hinvalid]
  · have hping : isPingName (if entry = "default" then store else entry) := by
      split_ifs with hdefault
      · exact hstore
      · exact by_contra fun hnot => hinvalid ⟨hdefault, hnot⟩
    simp only [addPing, if_neg hinvalid]
    by_cases hseen : pings.contains (if entry = "default" then store else entry)
    · rwa [if_pos hseen]
    · rw [if_neg hseen]
      exact List.forall_mem_append.mpr ⟨h, List.forall_mem_singleton.mpr hping⟩

theorem isPingName_sendInPings {store : String} (hstore : isPingName store)
    (h : (d.sendInPings store).problems = []) :
    ∀ t ∈ (d.sendInPings store).value, isPingName t := by
  rw [sendInPings] at h ⊢
  cases hfind : d.find? .sendInPings with
  | none => exact List.forall_mem_singleton.mpr hstore
  | some node =>
    rw [hfind] at h
    exact Checked.foldlM_induction (P := fun pings => ∀ t ∈ pings, isPingName t)
      (fun pings entry _ => isPingName_addPing hstore pings entry) _
      (List.append_eq_nil_iff.mp h).2 fun t ht => absurd ht List.not_mem_nil

theorem isLabel_addLabel (labels : List String) (label : String) (h : ∀ t ∈ labels, isLabel t) :
    ∀ t ∈ (addLabel labels label).value, isLabel t := by
  by_cases hlabel : isLabel label
  · rw [addLabel, if_neg (not_not.mpr hlabel)]
    split
    · exact h
    · exact List.forall_mem_append.mpr ⟨h, List.forall_mem_singleton.mpr hlabel⟩
  · rwa [addLabel, if_pos hlabel]

theorem isLabel_labels {labels : List String} (hproblems : d.labels.problems = [])
    (h : d.labels.value = some labels) : ∀ t ∈ labels, isLabel t := by
  rw [Definition.labels] at hproblems h
  cases hfind : d.find? .labels with
  | none => simp [hfind] at h
  | some node =>
    rw [hfind] at hproblems h
    simp only [Checked.problems_bind, List.append_eq_nil_iff] at hproblems
    exact Option.some.inj h ▸ Checked.foldlM_induction (P := fun labels => ∀ t ∈ labels, isLabel t)
      (fun labels label _ => isLabel_addLabel labels label) _ hproblems.2.1
      fun t ht => absurd ht List.not_mem_nil

section

variable {what : Subject} {maxLength : Nat}
  {description : String → Node → Checked (Option String)} {repeated : String → Problem}

/-- A key without problems is admitted, and it is added under its description if it has one. -/
theorem addKey_eq_pure {m m' : OrderedMap String} {key : String} {node : Node}
    (h : addKey p what maxLength description repeated m (key, node) = pure m') :
    p.AdmitsName maxLength key ∧
      (description key node = pure none ∧ m' = m ∨
        ∃ text, description key node = pure (some text) ∧ m.insert key text = .ok m') := by
  have hkey : isIdentifier key maxLength := by
    by_contra hkey
    simp [addKey, hkey, Checked.eq_pure_iff] at h
  have hreserved : p.reserves key = false := by
    refine Bool.eq_false_of_not_eq_true fun hreserved => ?_
    simp [addKey, hkey, hreserved, Checked.eq_pure_iff] at h
  refine ⟨⟨hkey, hreserved⟩, ?_⟩
  simp only [addKey, hkey, not_true_eq_false, if_false, hreserved, Bool.false_eq_true,
    Checked.bind_eq_pure_iff] at h
  obtain ⟨text?, hdescription, h⟩ := h
  cases text? with
  | none => exact Or.inl ⟨hdescription, (congrArg Checked.value h).symm⟩
  | some text =>
    refine Or.inr ⟨text, hdescription, ?_⟩
    cases hinsert : m.insert key text with
    | ok inserted =>
      simp only [hinsert] at h
      exact congrArg Except.ok (congrArg Checked.value h)
    | error key => simp [hinsert, Checked.eq_pure_iff] at h

theorem admitsName_keyedTexts {a : Attribute} {m : OrderedMap String}
    (h : d.keyedTexts a p what maxLength description repeated = pure m) :
    ∀ key ∈ m.keys, p.AdmitsName maxLength key := by
  obtain ⟨hproblems, rfl⟩ := Checked.eq_pure_iff.mp h
  have hempty : ∀ key ∈ (OrderedMap.empty : OrderedMap String).keys, p.AdmitsName maxLength key :=
    fun key hkey => absurd hkey List.not_mem_nil
  have hstep : ∀ (m : OrderedMap String) (entry : String × Node),
      (addKey p what maxLength description repeated m entry).problems = [] →
      (∀ key ∈ m.keys, p.AdmitsName maxLength key) →
      ∀ key ∈ (addKey p what maxLength description repeated m entry).value.keys,
        p.AdmitsName maxLength key := by
    intro m entry hentry hm
    obtain ⟨hname, ⟨-, hsame⟩ | ⟨text, -, hinsert⟩⟩ :=
      addKey_eq_pure (Checked.eq_pure_iff.mpr ⟨hentry, rfl⟩)
    · rwa [hsame]
    · rw [OrderedMap.keys_insert hinsert]
      exact List.forall_mem_append.mpr ⟨hm, List.forall_mem_singleton.mpr hname⟩
  rw [keyedTexts] at hproblems ⊢
  split at hproblems
  · exact hempty
  · exact Checked.foldlM_induction
      (P := fun m : OrderedMap String => ∀ key ∈ m.keys, p.AdmitsName maxLength key)
      hstep _ (List.append_eq_nil_iff.mp hproblems).1 hempty
  · exact hempty

end

/-! ### Names and types -/

theorem admitsName_of_checkMetricName {name : String} (h : (checkMetricName p name).problems = []) :
    p.AdmitsName maxNameLength name := by
  by_cases hname : isIdentifier name maxNameLength
  · refine ⟨hname, ?_⟩
    cases hreserved : p.reserves name with
    | false => rfl
    | true => simp [checkMetricName, hname, hreserved] at h
  · simp [checkMetricName, hname] at h

theorem isPingName_of_checkPingName {name : String} (h : (checkPingName p name).problems = []) :
    isPingName name ∧ p.reservesPing name = false := by
  by_cases hname : isPingName name
  · refine ⟨hname, ?_⟩
    cases hreserved : p.reservesPing name with
    | false => rfl
    | true => simp [checkPingName, hname, hreserved] at h
  · simp [checkPingName, hname] at h

theorem unsupported?_of_checkSupport {v : Variant} (h : (checkSupport p v).problems = []) :
    p.unsupported? v = none := by
  cases hcause : p.unsupported? v with
  | none => rfl
  | some cause => simp [checkSupport, hcause] at h

theorem isPingName_defaultStore (v : Variant) : isPingName v.defaultStore := by
  cases v <;> decide

/-! ### Definitions -/

theorem GivesMetric.admitted {origin key name : String} {v : Variant} {m : Metric}
    (h : d.GivesMetric p origin (categoryOfKey key) name v m) (hv : v.isMetric)
    (hkey : p.categoryProblem? key = none) : m.Admitted p := by
  obtain ⟨hstoreProblems, hstores⟩ := Checked.eq_pure_iff.mp h.stores
  refine ⟨⟨key, hkey, h.category⟩, ?_, ?_, ?_, ?_, ?_⟩
  · exact h.name ▸ admitsName_of_checkMetricName (congrArg Checked.problems h.nameCheck)
  · rw [h.variant hv]
    exact unsupported?_of_checkSupport (congrArg Checked.problems h.support)
  · rw [← hstores]
    exact isPingName_sendInPings (isPingName_defaultStore v) hstoreProblems
  · exact fun extraKeys hevent => admitsName_keyedTexts (h.extraKeys_eq hv hevent)
  · intro inner labels hlabeled
    obtain ⟨hproblems, hvalue⟩ := Checked.eq_pure_iff.mp (h.labels_eq hv hlabeled)
    exact isLabel_labels hproblems hvalue

theorem GivesPing.admitted {origin name : String} {q : Ping} (h : d.GivesPing p origin name q) :
    q.Admitted p := by
  obtain ⟨hgrammar, hunreserved⟩ :=
    isPingName_of_checkPingName (congrArg Checked.problems h.nameCheck)
  exact ⟨h.name ▸ hgrammar, h.name ▸ hunreserved,
    unsupported?_of_checkSupport (congrArg Checked.problems h.support),
    admitsName_keyedTexts h.reasons⟩

end Definition

/-- Every instrument of flawless documents was admitted. -/
theorem admitted_instrumentsOf {p : Policy} {D : List SourceDocument}
    (hf : ∀ d ∈ D, d.Flawless p) : ∀ i ∈ instrumentsOf p D, i.Admitted p := by
  refine forall_instrumentsOf hf (fun i hi => ?_) (fun t m hkey hproblems hm => ?_)
    fun e q hproblems hq => ?_
  · cases i with
    | metric m =>
      have hm : m.withoutOrigin.Admitted p := hi
      exact ⟨hm.category, hm.name, hm.support, hm.stores, hm.keys, hm.labels⟩
    | ping q =>
      have hq : q.withoutOrigin.Admitted p := hi
      exact ⟨hq.grammar, hq.unreserved, hq.support, hq.reasons⟩
  · obtain ⟨d, v, -, hv, hgives⟩ := givesMetric_of_readMetric hproblems hm
    exact hgives.admitted hv hkey
  · obtain ⟨d, -, hgives⟩ := givesPing_of_readPing hproblems hq
    exact hgives.admitted

theorem admitted_of_unitsOf {p : Policy} {documents : List SourceDocument} {model : Model}
    {units : List OutputUnit} (h : unitsOf p documents = .ok (model, units)) :
    ∀ i ∈ model.instruments, i.Admitted p := by
  obtain ⟨ha, rfl, -, -⟩ := unitsOf_eq_ok_iff.mp h
  exact admitted_instrumentsOf (acceptable_findingsOf_iff.mp ha).1

end TelemetryBindings
