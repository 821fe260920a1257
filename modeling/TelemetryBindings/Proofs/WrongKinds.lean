import TelemetryBindings.Proofs.Definitions

/-!
# Values of the wrong kind

Every attribute is read from nodes of certain kinds. A value of another kind is recorded as a
problem that names the attribute, whatever else is wrong with the definition, as long as the
attribute is reached. Not all are: a distribution is read up to the first of its required attributes
that is missing or wrong, and the pings that store a metric are read only once its type is.
-/
namespace TelemetryBindings

namespace Attribute

/-- The kinds of node that the attribute can be read from. -/
def kinds : Attribute → List Node.Kind
  | .type | .description | .lifetime | .timeUnit | .memoryUnit | .histogramType | .unit => [.string]
  | .bugs | .dataReviews | .notificationEmails | .sendInPings | .labels => [.list]
  | .expires => [.string, .integer]
  | .disabled | .includeClientId | .sendIfEmpty => [.boolean]
  | .version | .rangeMin | .rangeMax | .bucketCount => [.integer]
  | .extraKeys | .reasons => [.mapping]

theorem key_injective {a b : Attribute} (h : a.key = b.key) : a = b := by
  have hword := a.ofWord?_key
  rw [h, b.ofWord?_key] at hword
  exact (Option.some.inj hword).symm

theorem dot_notMem_key (a : Attribute) : '.' ∉ a.key.toList := by
  cases a <;> decide

end Attribute

/-- The problem names the attribute as one whose value is of a wrong kind. -/
def Problem.blames (a : Attribute) : Problem → Bool
  | .wrongType key _ _ => key == a.key
  | .invalidExpires _ => a == .expires
  | _ => false

/-! ### What checked values blame -/

namespace Checked

variable {α β : Type} {a : Attribute}

def Blames (c : Checked α) (a : Attribute) : Prop := ∃ q ∈ c.problems, q.blames a

def Silent (c : Checked α) : Prop := ∀ q ∈ c.problems, ∀ a, q.blames a = false

theorem Silent.not_blames {c : Checked α} (h : c.Silent) (a : Attribute) : ¬ c.Blames a := by
  rintro ⟨q, hq, hblames⟩
  rw [h q hq a] at hblames
  exact absurd hblames (by decide)

theorem silent_pure (value : α) : (pure value : Checked α).Silent :=
  fun _ hq => absurd hq List.not_mem_nil

theorem silent_singleton {value : α} {q : Problem} (hq : ∀ a, q.blames a = false) :
    (⟨value, [q]⟩ : Checked α).Silent :=
  List.forall_mem_singleton.mpr hq

@[simp] theorem not_blames_pure (value : α) : ¬ (pure value : Checked α).Blames a :=
  (silent_pure value).not_blames a

theorem Silent.bind {x : Checked α} {f : α → Checked β} (hx : x.Silent) (hf : (f x.value).Silent) :
    (x >>= f).Silent :=
  List.forall_mem_append.mpr ⟨hx, hf⟩

theorem silent_foldlM {σ : Type} {step : σ → α → Checked σ} (h : ∀ s i, (step s i).Silent)
    (l : List α) (s : σ) : (l.foldlM step s).Silent := by
  induction l generalizing s with
  | nil => exact silent_pure s
  | cons i l ih => exact (h s i).bind (ih _)

theorem blames_bind {x : Checked α} {f : α → Checked β} :
    (x >>= f).Blames a ↔ x.Blames a ∨ (f x.value).Blames a := by
  simp only [Blames, problems_bind, List.mem_append, or_and_right, exists_or]

theorem blames_reject {q : Problem} : (reject q : Checked (Option α)).Blames a ↔ q.blames a := by
  simp [Blames]

theorem blames_clean {c : Checked (Option α)} : c.clean.Blames a ↔ c.Blames a := by
  rw [Blames, Blames, clean]
  split <;> rfl

end Checked

namespace Definition

def WrongKind (d : Definition) (a : Attribute) : Prop :=
  ∃ node, d.find? a = some node ∧ node.kind ∉ a.kinds

/-- The value is read from one attribute: its problems name no other attribute, and they name this
one if its value is of a wrong kind. -/
structure Reads {α : Type} (d : Definition) (a : Attribute) (c : Checked α) : Prop where
  only : ∀ b, c.Blames b → b = a
  wrong : d.WrongKind a → c.Blames a

variable {α β : Type} {d : Definition} {p : Policy} {a b : Attribute}

theorem Reads.bind {x : Checked α} {f : α → Checked β} (hx : d.Reads a x)
    (hf : ∀ b, (f x.value).Blames b → b = a) : d.Reads a (x >>= f) where
  only b h := (Checked.blames_bind.mp h).elim (hx.only b) (hf b)
  wrong h := Checked.blames_bind.mpr (Or.inl (hx.wrong h))

theorem Reads.bind_silent {x : Checked α} {f : α → Checked β} (hx : d.Reads a x)
    (hf : (f x.value).Silent) : d.Reads a (x >>= f) :=
  hx.bind fun b hb => absurd hb (hf.not_blames b)

theorem reads_pure_of_none {value : α} (hfind : d.find? a = none) :
    d.Reads a (pure value : Checked α) where
  only b hb := absurd hb ((Checked.silent_pure value).not_blames b)
  wrong := by
    rintro ⟨node, hnode, -⟩
    rw [hfind] at hnode
    cases hnode

theorem WrongKind.of_find? {node : Node} (h : d.WrongKind a) (hfind : d.find? a = some node) :
    node.kind ∉ a.kinds := by
  obtain ⟨n, hn, hkind⟩ := h
  rw [hfind] at hn
  exact Option.some.inj hn ▸ hkind

/-- Of the attributes with a wrong kind, a reader names its own. -/
theorem Reads.blames_iff {c : Checked α} (hc : d.Reads b c) (h : d.WrongKind a) :
    c.Blames a ↔ a = b :=
  ⟨hc.only a, fun he => he ▸ hc.wrong (he ▸ h)⟩

theorem blames_wrongType {expected : Expected} {node : Node} :
    (wrongType a expected node).blames b ↔ b = a := by
  rw [wrongType, Problem.blames, beq_iff_eq]
  exact ⟨fun h => (Attribute.key_injective h).symm, fun h => h ▸ rfl⟩

/-! ### One reader after the other -/

theorem blames_read {expected : Expected} {view : Node → Option α} :
    (d.read a expected view).Blames b ↔
      b = a ∧ ∃ node, d.find? a = some node ∧ view node = none := by
  rw [read]
  cases d.find? a with
  | none => simp
  | some node =>
    cases hview : view node with
    | none => simp [Checked.blames_reject, blames_wrongType, hview]
    | some value => simp [hview]

theorem reads_read {expected : Expected} {view : Node → Option α}
    (h : ∀ node, node.kind ∉ a.kinds → view node = none) :
    d.Reads a (d.read a expected view) where
  only _ hb := (blames_read.mp hb).1
  wrong := fun ⟨node, hnode, hkind⟩ => blames_read.mpr ⟨rfl, node, hnode, h node hkind⟩

theorem reads_string (ha : a.kinds = [.string]) : d.Reads a (d.string a) :=
  reads_read fun node hkind => by cases node <;> simp_all [Node.kind, Node.asString?]

theorem reads_bool (ha : a.kinds = [.boolean]) : d.Reads a (d.bool a) :=
  reads_read fun node hkind => by cases node <;> simp_all [Node.kind, Node.asBool?]

theorem reads_integer (ha : a.kinds = [.integer]) : d.Reads a (d.integer a) :=
  reads_read fun node hkind => by cases node <;> simp_all [Node.kind, Node.asInteger?]

theorem reads_boolOr (ha : a.kinds = [.boolean]) (default : Bool) :
    d.Reads a (d.boolOr a default) :=
  (reads_bool ha).bind_silent (Checked.silent_pure _)

theorem reads_version : d.Reads .version d.version := by
  refine (reads_integer rfl).bind_silent ?_
  split
  · exact Checked.silent_pure 0
  · split
    · exact Checked.silent_pure _
    · exact (Checked.silent_singleton fun _ => rfl).bind (Checked.silent_pure 0)

theorem reads_word [Vocabulary α] (ha : a.kinds = [.string]) : d.Reads a (d.word α a) := by
  refine (reads_string ha).bind_silent ?_
  split
  · exact Checked.silent_pure none
  · split
    · exact Checked.silent_pure _
    · exact Checked.silent_singleton fun _ => rfl

theorem reads_wordOr [Vocabulary α] (ha : a.kinds = [.string]) (default : α) :
    d.Reads a (d.wordOr a default) :=
  (reads_word ha).bind_silent (Checked.silent_pure _)

theorem reads_expires : d.Reads .expires d.expires := by
  rw [expires]
  cases hfind : d.find? .expires with
  | none => exact reads_pure_of_none hfind
  | some node =>
    cases hparse : Expiry.parse? node with
    | none =>
      simp only [hparse]
      refine ⟨fun b hb => ?_, fun _ => Checked.blames_reject.mpr rfl⟩
      exact beq_iff_eq.mp (Checked.blames_reject.mp hb)
    | some expiry =>
      simp only [hparse]
      refine ⟨fun b hb => absurd hb ((Checked.silent_pure _).not_blames b), fun h => ?_⟩
      have hkind := h.of_find? hfind
      cases node <;> simp_all [Node.kind, Attribute.kinds, Expiry.parse?]

theorem reads_texts {allowIntegers : Bool} {node : Node} (ha : a.kinds = [.list])
    (hfind : d.find? a = some node) : d.Reads a (texts a allowIntegers node) := by
  constructor
  · rintro b ⟨q, hq, hblames⟩
    cases node with
    | list items =>
      obtain ⟨item, -, rfl⟩ := List.mem_map.mp hq
      exact blames_wrongType.mp hblames
    | _ => exact blames_wrongType.mp (List.mem_singleton.mp hq ▸ hblames)
  · intro h
    have hkind := h.of_find? hfind
    cases node with
    | list items => simp [ha, Node.kind] at hkind
    | _ => exact ⟨_, List.mem_singleton_self _, blames_wrongType.mpr rfl⟩

theorem reads_stringList (ha : a.kinds = [.list]) : d.Reads a (d.stringList a) := by
  rw [stringList]
  cases hfind : d.find? a with
  | none => exact reads_pure_of_none hfind
  | some node => exact reads_texts ha hfind

theorem reads_nonEmptyTexts (ha : a.kinds = [.list]) (allowIntegers : Bool) :
    d.Reads a (d.nonEmptyTexts a allowIntegers) := by
  rw [nonEmptyTexts]
  cases hfind : d.find? a with
  | none => exact reads_pure_of_none hfind
  | some node =>
    refine (reads_texts ha hfind).bind fun b hb => ?_
    split at hb
    · rcases Checked.blames_bind.mp hb with hb | hb
      · obtain ⟨q, hq, hblames⟩ := hb
        exact blames_wrongType.mp (List.mem_singleton.mp hq ▸ hblames)
      · exact absurd hb ((Checked.silent_pure _).not_blames b)
    · exact absurd hb ((Checked.silent_pure _).not_blames b)

theorem silent_addPing (store : String) (pings : List String) (entry : String) :
    (addPing store pings entry).Silent := by
  by_cases hinvalid : entry ≠ "default" ∧ ¬ Identifier.isPingName entry
  · rw [addPing, if_pos hinvalid]
    exact Checked.silent_singleton fun _ => rfl
  · simp only [addPing, if_neg hinvalid]
    by_cases hseen : pings.contains (if entry = "default" then store else entry)
    · rw [if_pos hseen]
      exact Checked.silent_singleton fun _ => rfl
    · rw [if_neg hseen]
      exact Checked.silent_pure _

theorem reads_sendInPings (store : String) : d.Reads .sendInPings (d.sendInPings store) := by
  rw [sendInPings]
  cases hfind : d.find? .sendInPings with
  | none => exact reads_pure_of_none hfind
  | some node =>
    exact (reads_texts rfl hfind).bind_silent (Checked.silent_foldlM (silent_addPing store) _ _)

theorem silent_addLabel (labels : List String) (label : String) :
    (addLabel labels label).Silent := by
  rw [addLabel]
  split
  · exact Checked.silent_singleton fun _ => rfl
  · split
    · exact Checked.silent_singleton fun _ => rfl
    · exact Checked.silent_pure _

theorem reads_labels : d.Reads .labels d.labels := by
  rw [labels]
  cases hfind : d.find? .labels with
  | none => exact reads_pure_of_none hfind
  | some node =>
    exact (reads_texts rfl hfind).bind_silent
      ((Checked.silent_foldlM silent_addLabel _ _).bind (Checked.silent_pure _))

theorem silent_collisions (what : Subject) (seen : List (String × String)) (keys : List String) :
    (⟨(), collisions what seen keys⟩ : Checked Unit).Silent := by
  induction keys generalizing seen with
  | nil => exact Checked.silent_pure ()
  | cons key rest ih =>
    rw [collisions]
    split
    · exact List.forall_mem_cons.mpr ⟨fun _ => rfl, ih _⟩
    · exact ih _

/-- A path below an attribute is the key of no attribute. -/
theorem blames_wrongType_of_dot {key : String} (h : '.' ∈ key.toList) (expected : Expected)
    (found : Node.Kind) (a : Attribute) : (Problem.wrongType key expected found).blames a = false :=
  beq_eq_false_iff_ne.mpr fun hkey => a.dot_notMem_key (hkey ▸ h)

theorem silent_extraKeyDescription (key : String) (node : Node) :
    (extraKeyDescription key node).Silent := by
  cases node with
  | mapping entries =>
    refine List.forall_mem_append.mpr ⟨fun q hq b => ?_, ?_⟩
    · obtain ⟨⟨field, value⟩, -, hproblem⟩ := List.mem_filterMap.mp hq
      by_cases hfield : field = "description"
      · cases value <;> simp only [extraKeyProblem?, hfield, if_true, Option.some.injEq,
          reduceCtorEq] at hproblem <;>
          exact hproblem ▸ blames_wrongType_of_dot (by simp) _ _ b
      · simp only [extraKeyProblem?, hfield, if_false, Option.some.injEq] at hproblem
        exact hproblem ▸ rfl
    · split
      · exact fun q hq => absurd hq List.not_mem_nil
      · exact List.forall_mem_singleton.mpr fun _ => rfl
  | _ => exact Checked.silent_singleton (blames_wrongType_of_dot (by simp) _ _)

section

variable {what : Subject} {maxLength : Nat}
  {description : String → Node → Checked (Option String)} {repeated : String → Problem}

theorem silent_addKey (hd : ∀ key node, (description key node).Silent)
    (hr : ∀ key a, (repeated key).blames a = false) (m : OrderedMap String)
    (entry : String × Node) :
    (addKey p what maxLength description repeated m entry).Silent := by
  obtain ⟨key, node⟩ := entry
  unfold addKey
  simp only
  split
  · exact (Checked.silent_singleton fun _ => rfl).bind (Checked.silent_pure m)
  · split
    on_goal 1 => refine (Checked.silent_singleton fun _ => rfl).bind ?_
    -- A reserved key is read like any other.
    all_goals
      refine (hd key node).bind ?_
      split
      · exact Checked.silent_pure m
      · split
        · exact Checked.silent_pure _
        · exact (Checked.silent_singleton (hr _)).bind (Checked.silent_pure m)

theorem reads_keyedTexts (ha : a.kinds = [.mapping])
    (hd : ∀ key node, (description key node).Silent)
    (hr : ∀ key a, (repeated key).blames a = false) :
    d.Reads a (d.keyedTexts a p what maxLength description repeated) := by
  rw [keyedTexts]
  cases hfind : d.find? a with
  | none => exact reads_pure_of_none hfind
  | some node =>
    cases node with
    | mapping entries =>
      have hsilent : (do
          let m ← entries.foldlM (addKey p what maxLength description repeated) .empty
          ⟨(), collisions what [] m.keys⟩
          return m : Checked (OrderedMap String)).Silent :=
        (Checked.silent_foldlM (silent_addKey hd hr) entries _).bind
          ((silent_collisions what [] _).bind (Checked.silent_pure _))
      refine ⟨fun b hb => absurd hb (hsilent.not_blames b), fun h => ?_⟩
      have hkind := h.of_find? hfind
      simp [ha, Node.kind] at hkind
    | _ =>
      refine ⟨fun b hb => ?_, fun _ => ⟨_, List.mem_singleton_self _, blames_wrongType.mpr rfl⟩⟩
      obtain ⟨q, hq, hblames⟩ := hb
      exact blames_wrongType.mp (List.mem_singleton.mp hq ▸ hblames)

end

theorem reads_extraKeys : d.Reads .extraKeys (d.extraKeys p) :=
  reads_keyedTexts rfl silent_extraKeyDescription fun _ _ => rfl

end Definition

/-! ### Attributes that are reached -/

/-- The attributes that have to be read before this one is looked at. -/
def Variant.prerequisites (v : Variant) : Attribute → List Attribute
  | .sendInPings => v.ownRequired
  | .bucketCount => [.rangeMax]
  | .histogramType => [.rangeMax, .bucketCount]
  | .unit => if v = .customDistribution then v.ownRequired else []
  | _ => []

theorem Variant.prerequisites_eq_nil {v : Variant} {a : Attribute} (hv : v.ownRequired = [])
    (ha : v.permits a) : v.prerequisites a = [] := by
  cases a with
  | sendInPings => exact hv
  | bucketCount | histogramType => cases v <;> first | exact absurd ha (by decide) | cases hv
  | unit =>
    refine if_neg ?_
    rintro rfl
    cases hv
  | _ => rfl

namespace Definition

/-- The attribute is there, and its value is of a kind that it can be read from and, for the layout
of a histogram, one of the words for it. -/
def gives (d : Definition) (a : Attribute) : Bool :=
  (d.find? a).any fun node => a.kinds.contains node.kind &&
    (a != .histogramType ||
      (node.asString?.bind Vocabulary.ofWord? : Option HistogramType).isSome)

def Reached (d : Definition) (v : Variant) (a : Attribute) : Prop :=
  ∀ b ∈ v.prerequisites a, d.gives b

section

variable {α : Type} {d : Definition} {p : Policy} {v : Variant} {a : Attribute}

theorem isSome_integer (ha : a.kinds = [.integer]) : (d.integer a).value.isSome = d.gives a := by
  have hne : (a != .histogramType) = true := by cases a <;> simp_all [Attribute.kinds]
  rw [integer, read, gives, ha, hne]
  cases d.find? a with
  | none => rfl
  | some node => cases node <;> rfl

theorem isSome_string (ha : a.kinds = [.string]) (hne : a ≠ .histogramType) :
    (d.string a).value.isSome = d.gives a := by
  rw [string, read, gives, ha, bne_iff_ne.mpr hne]
  cases d.find? a with
  | none => rfl
  | some node => cases node <;> rfl

theorem isSome_histogramType :
    (d.word HistogramType .histogramType).value.isSome = d.gives .histogramType := by
  rw [word, Checked.value_bind, string, read, gives]
  cases d.find? .histogramType with
  | none => rfl
  | some node =>
    cases node with
    | string text =>
      cases hword : (Vocabulary.ofWord? text : Option HistogramType) <;>
        simp [Node.asString?, hword, Node.kind, Attribute.kinds]
    | _ => rfl

theorem reached_of_prerequisites (h : v.prerequisites a = []) : d.Reached v a := by
  rw [Reached, h]
  exact fun b hb => absurd hb List.not_mem_nil

/-- A distribution is read up to the first required attribute that gives no value. -/
theorem isSome_distributionType :
    d.distributionType.value.isSome ↔
      ∀ b ∈ Variant.customDistribution.ownRequired, d.gives b := by
  have hmax := isSome_integer (d := d) (a := .rangeMax) rfl
  have hcount := isSome_integer (d := d) (a := .bucketCount) rfl
  have hword := isSome_histogramType (d := d)
  simp only [Variant.ownRequired, List.forall_mem_cons, List.not_mem_nil, false_imp_iff,
    implies_true, and_true, ← hmax, ← hcount, ← hword]
  simp only [distributionType, Checked.value_bind]
  cases (d.integer .rangeMax).value with
  | none => simp
  | some rangeMax =>
    simp only [Checked.value_bind]
    cases (d.integer .bucketCount).value with
    | none => simp
    | some bucketCount =>
      simp only [Checked.value_bind]
      cases (d.word HistogramType .histogramType).value with
      | none => simp
      | some histogram => simp

theorem isSome_metricType (hv : v.isMetric) :
    (d.metricType p v).value.isSome ↔ ∀ b ∈ v.ownRequired, d.gives b := by
  cases v with
  | customDistribution => exact isSome_distributionType
  | quantity =>
    have hunit := isSome_string (d := d) (a := .unit) rfl (by decide)
    simp [metricType, Variant.ownRequired, ← hunit]
  | ping => simp [Variant.isMetric] at hv
  | _ => exact iff_of_true rfl fun b hb => absurd hb List.not_mem_nil

/-! ### What is recorded for a definition -/

/-- A required attribute that gives no value hides those after it. -/
theorem blames_distributionType :
    d.distributionType.Blames a ↔
      (d.integer .rangeMin).Blames a ∨ (d.integer .rangeMax).Blames a ∨
      d.gives .rangeMax ∧ ((d.integer .bucketCount).Blames a ∨
      d.gives .bucketCount ∧ ((d.word HistogramType .histogramType).Blames a ∨
      d.gives .histogramType ∧ (d.string .unit).Blames a)) := by
  rw [← isSome_integer rfl, ← isSome_integer rfl, ← isSome_histogramType]
  simp only [distributionType, Checked.blames_bind]
  cases (d.integer .rangeMax).value with
  | none => simp
  | some rangeMax =>
    simp only [Checked.blames_bind]
    cases (d.integer .bucketCount).value with
    | none => simp
    | some bucketCount =>
      simp only [Checked.blames_bind]
      cases (d.word HistogramType .histogramType).value with
      | none => simp
      | some histogram => simp [Checked.blames_bind]

theorem blames_distributionType_iff (h : d.WrongKind a) :
    d.distributionType.Blames a ↔
      a ∈ Variant.customDistribution.ownRequired ++ Variant.customDistribution.ownOptional ∧
        d.Reached .customDistribution a := by
  rw [blames_distributionType, (reads_integer rfl).blames_iff h, (reads_integer rfl).blames_iff h,
    (reads_integer rfl).blames_iff h, (reads_word rfl).blames_iff h,
    (reads_string rfl).blames_iff h]
  cases a <;> simp [Variant.ownRequired, Variant.ownOptional, Reached, Variant.prerequisites]

/-- A type with one attribute of its own always reaches it. -/
theorem own_and_reached_iff (hown : v.ownRequired ++ v.ownOptional = [b])
    (hb : v.prerequisites b = []) :
    a ∈ v.ownRequired ++ v.ownOptional ∧ d.Reached v a ↔ a = b := by
  rw [hown, List.mem_singleton]
  refine and_iff_left_of_imp ?_
  rintro rfl
  exact reached_of_prerequisites hb

theorem blames_metricType_iff (hv : v.isMetric) (h : d.WrongKind a) :
    (d.metricType p v).Blames a ↔ a ∈ v.ownRequired ++ v.ownOptional ∧ d.Reached v a := by
  cases v with
  | customDistribution => exact blames_distributionType_iff h
  | ping => simp [Variant.isMetric] at hv
  | event =>
    rw [own_and_reached_iff rfl rfl, ← reads_extraKeys.blames_iff h, metricType,
      Checked.blames_bind, or_iff_left (Checked.not_blames_pure _)]
  | labeledBoolean | labeledCounter | labeledString =>
    rw [own_and_reached_iff rfl rfl, ← reads_labels.blames_iff h, metricType, labeledType,
      Checked.blames_bind, or_iff_left (Checked.not_blames_pure _)]
  | datetime | timespan | timingDistribution | memoryDistribution =>
    rw [own_and_reached_iff rfl rfl, metricType, Checked.blames_bind,
      or_iff_left (Checked.not_blames_pure _)]
    exact (reads_wordOr rfl _).blames_iff h
  | quantity =>
    rw [own_and_reached_iff rfl rfl, metricType, Checked.blames_bind,
      or_iff_left (Checked.not_blames_pure _)]
    exact (reads_string rfl).blames_iff h
  | _ => simp [metricType, Variant.ownRequired, Variant.ownOptional]

theorem blames_stores_iff {type : Option MetricType} (h : d.WrongKind a) :
    (d.stores v type).Blames a ↔ a = .sendInPings ∧ type.isSome := by
  cases type with
  | none => simp [stores]
  | some type =>
    rw [stores, Checked.blames_bind, or_iff_left (Checked.not_blames_pure _),
      (reads_sendInPings _).blames_iff h]
    simp

theorem silent_checkSchema : (checkSchema v d).Silent := by
  have hkeys : ∀ seen : List String, ∀ q ∈ keyProblems v seen d, ∀ a, q.blames a = false := by
    induction d with
    | nil => exact fun seen q hq => absurd hq List.not_mem_nil
    | cons e d ih =>
      intro seen
      rw [keyProblems]
      split
      · exact List.forall_mem_cons.mpr ⟨fun _ => rfl, ih _⟩
      · split
        · exact ih _
        · exact List.forall_mem_cons.mpr ⟨fun _ => rfl, ih _⟩
  exact List.forall_mem_append.mpr ⟨hkeys [], List.forall_mem_map.mpr fun _ _ _ => rfl⟩

theorem silent_checkMetricName (name : String) : (checkMetricName p name).Silent := by
  rw [checkMetricName]
  split
  · exact Checked.silent_singleton fun _ => rfl
  · split
    · exact Checked.silent_singleton fun _ => rfl
    · exact Checked.silent_pure ()

theorem silent_checkSupport : (checkSupport p v).Silent := by
  rw [checkSupport]
  split
  · exact Checked.silent_singleton fun _ => rfl
  · exact Checked.silent_pure ()

theorem permits_iff (hv : v.isMetric) :
    v.permits a ↔ a ∈ Variant.commonRequired ++ Variant.commonOptional ∨
      a ∈ v.ownRequired ++ v.ownOptional := by
  simp only [Variant.permits, Variant.required, Variant.optional, hv, if_true, List.contains_iff_mem,
    List.mem_append]
  tauto

/-- Of the attributes with a wrong kind, a definition is blamed for those that it may have and that
are reached. -/
theorem blames_metricOf_iff {origin category name : String} (hv : v.isMetric)
    (h : d.WrongKind a) :
    (d.metricOf p origin category name v).Blames a ↔
      v.permits a ∧ a ≠ .type ∧ d.Reached v a := by
  have hown : .type ∉ v.ownRequired ++ v.ownOptional := by
    cases v <;> decide
  rw [permits_iff hv]
  simp only [metricOf, Checked.blames_bind, silent_checkSchema.not_blames,
    (silent_checkMetricName name).not_blames, silent_checkSupport.not_blames,
    Checked.not_blames_pure, false_or, or_false]
  rw [(reads_string rfl).blames_iff h, bugs, (reads_nonEmptyTexts rfl _).blames_iff h,
    (reads_stringList rfl).blames_iff h, nonEmptyStringList,
    (reads_nonEmptyTexts rfl _).blames_iff h, reads_expires.blames_iff h,
    (reads_wordOr rfl _).blames_iff h, (reads_boolOr rfl _).blames_iff h,
    reads_version.blames_iff h, blames_metricType_iff hv h, blames_stores_iff h,
    isSome_metricType hv]
  cases a with
  | type => simp [hown]
  | sendInPings => simp [Variant.commonRequired, Variant.commonOptional, Reached,
      Variant.prerequisites]
  | description | bugs | dataReviews | notificationEmails | expires | lifetime | disabled | version =>
    simp only [Variant.commonRequired, Variant.commonOptional, List.mem_append, List.mem_cons,
      reduceCtorEq, true_or, or_true, ne_eq, not_false_eq_true, true_and, true_iff]
    exact reached_of_prerequisites rfl
  | _ => simp [Variant.commonRequired, Variant.commonOptional]

end

end Definition

theorem blames_readMetric_iff {p : Policy} {origin category name tag : String} {d : Definition}
    {v : Variant} {a : Attribute} (htype : d.find? .type = some (.string tag))
    (htag : Variant.resolve tag = .ok v) (hv : v.isMetric) (h : d.WrongKind a) :
    (readMetric p origin category name (.mapping d)).Blames a ↔
      v.permits a ∧ a ≠ .type ∧ d.Reached v a := by
  have hvariant : Definition.metricVariant d = pure (some v) := by
    simp [Definition.metricVariant, htype, htag, hv]
  rw [readMetric, Checked.blames_clean, hvariant, Checked.blames_bind,
    or_iff_right (Checked.not_blames_pure _)]
  exact Definition.blames_metricOf_iff hv h

/-! ### What a builder records -/

theorem Builder.mem_errors_foldl_record {fs : List Finding} {e : SchemaError}
    (h : .fault e ∈ fs) (b : Builder) : e ∈ (fs.foldl record b).errors := by
  induction fs generalizing b with
  | nil => exact absurd h List.not_mem_nil
  | cons f fs ih =>
    rcases List.mem_cons.mp h with rfl | h
    · have hfail : e ∈ (b.record (.fault e)).errors := List.mem_concat_self
      exact (grows_foldl_record fs _).errors.subset hfail
    · exact ih h _

/-- A builder records every problem of every metric definition, at the definition. -/
theorem Builder.mem_errors_addDocuments {b : Builder} {documents : List SourceDocument}
    {document : SourceDocument} (hdocument : document ∈ documents) {key name : String} {node : Node}
    (ht : (key, name, node) ∈ document.metricDefinitions) {q : Problem}
    (hq : q ∈ (readMetric b.policy document.origin (categoryOfKey key) name node).problems) :
    ⟨.metric key name, q⟩ ∈ (b.addDocuments documents).errors := by
  obtain ⟨s, hs⟩ := b.addDocuments_eq documents
  rw [hs]
  refine mem_errors_foldl_record (List.mem_flatMap.mpr ⟨document, hdocument, ?_⟩) b
  obtain ⟨⟨key', root⟩, hroot, hentry⟩ := List.mem_flatMap.mp ht
  obtain ⟨⟨name', node'⟩, hmem, heq⟩ := List.mem_map.mp hentry
  obtain ⟨rfl, rfl, rfl⟩ : key' = key ∧ name' = name ∧ node' = node := by simpa using heq
  cases root with
  | mapping ms =>
    rw [SourceDocument.findings_eq (SourceDocument.declares_of_mem_rootDefinitions hroot)]
    refine List.mem_append_left _ (List.mem_flatMap.mpr ⟨_, hroot, ?_⟩)
    refine List.mem_append_right _ (List.mem_flatMap.mpr ⟨_, hmem, ?_⟩)
    exact List.mem_append_left _ (List.mem_map_of_mem hq)
  | _ => exact absurd hmem List.not_mem_nil

/-- A value of a wrong kind is named by a problem of its definition exactly if the attribute is
reached, and a builder then records such a problem, located at the definition. Where the type
requires no attribute of its own, every attribute is reached. -/
theorem wrongKind_recorded_iff {b : Builder} {documents : List SourceDocument}
    {document : SourceDocument} (hdocument : document ∈ documents) {key name tag : String}
    {d : Definition} (hd : (key, name, .mapping d) ∈ document.metricDefinitions)
    (htype : d.find? .type = some (.string tag)) {v : Variant} (htag : Variant.resolve tag = .ok v)
    (hv : v.isMetric) {a : Attribute} (ha : v.permits a) (hne : a ≠ .type) (h : d.WrongKind a) :
    ((readMetric b.policy document.origin (categoryOfKey key) name (.mapping d)).Blames a ↔
      d.Reached v a) ∧
    (d.Reached v a → ∃ e ∈ (b.addDocuments documents).errors,
      e.location = .metric key name ∧ e.problem.blames a) ∧
    (v.ownRequired = [] → d.Reached v a) := by
  have hiff : (readMetric b.policy document.origin (categoryOfKey key) name (.mapping d)).Blames a ↔
      d.Reached v a := by
    rw [blames_readMetric_iff htype htag hv h]
    exact ⟨fun hblamed => hblamed.2.2, fun hreached => ⟨ha, hne, hreached⟩⟩
  refine ⟨hiff, fun hreached => ?_, fun hown => ?_⟩
  · obtain ⟨q, hq, hblames⟩ := hiff.mpr hreached
    exact ⟨_, Builder.mem_errors_addDocuments hdocument hd hq, rfl, hblames⟩
  · exact Definition.reached_of_prerequisites (Variant.prerequisites_eq_nil hown ha)

/-- A distribution whose upper bound, number of buckets and state are of wrong kinds. -/
def brokenDistribution : Definition :=
  [("type", .string "custom_distribution"), ("description", .string "Load times."),
    ("bugs", .list [.integer 1]), ("notification_emails", .list [.string "a@example.com"]),
    ("expires", .string "never"), ("range_max", .string "100"), ("bucket_count", .string "ten"),
    ("histogram_type", .string "linear"), ("disabled", .string "no")]

def brokenDocument : SourceDocument :=
  .ofEntries "m.yaml" .metrics [("page", .mapping [("load", .mapping brokenDistribution)])]

theorem metricDefinitions_brokenDocument :
    brokenDocument.metricDefinitions = [("page", "load", .mapping brokenDistribution)] := rfl

theorem wrongKind_brokenDistribution {a : Attribute} (h : a ∈ [.rangeMax, .bucketCount, .disabled]) :
    brokenDistribution.WrongKind a := by
  simp only [List.mem_cons, List.not_mem_nil, or_false] at h
  rcases h with rfl | rfl | rfl <;> exact ⟨.string _, rfl, by decide⟩

/-- The state is reported besides the upper bound, but the number of buckets is not. -/
theorem wrongKind_recorded_disabled :
    (∃ e ∈ (Builder.addDocuments { policy := {} } [brokenDocument]).errors,
      e.location = .metric "page" "load" ∧ e.problem.blames .disabled) ∧
    ¬ (readMetric {} "m.yaml" "page" "load" (.mapping brokenDistribution)).Blames .bucketCount := by
  have hd : ("page", "load", .mapping brokenDistribution) ∈ brokenDocument.metricDefinitions :=
    metricDefinitions_brokenDocument ▸ List.mem_singleton_self _
  have hdisabled := wrongKind_recorded_iff (b := { policy := {} }) (List.mem_singleton_self _) hd
    rfl rfl rfl (a := .disabled) (by decide) (by decide) (wrongKind_brokenDistribution (by decide))
  have hbuckets := wrongKind_recorded_iff (b := { policy := {} }) (List.mem_singleton_self _) hd
    rfl rfl rfl (a := .bucketCount) (by decide) (by decide)
    (wrongKind_brokenDistribution (by decide))
  refine ⟨hdisabled.2.1 (Definition.reached_of_prerequisites rfl), fun hblames => ?_⟩
  exact absurd (hbuckets.1.mp hblames .rangeMax (by decide)) (by decide)

/-- Not every value of a wrong kind is recorded. -/
theorem wrongKind_unrecorded :
    ¬ ∀ (b : Builder) (documents : List SourceDocument) (document : SourceDocument)
      (key name tag : String) (d : Definition) (v : Variant) (a : Attribute),
      document ∈ documents → (key, name, .mapping d) ∈ document.metricDefinitions →
      d.find? .type = some (.string tag) → Variant.resolve tag = .ok v → v.isMetric →
      v.permits a → a ≠ .type → d.WrongKind a →
      ∃ e ∈ (b.addDocuments documents).errors, e.location = .metric key name ∧ e.problem.blames a := by
  intro h
  have hd : ("page", "load", .mapping brokenDistribution) ∈ brokenDocument.metricDefinitions :=
    metricDefinitions_brokenDocument ▸ List.mem_singleton_self _
  obtain ⟨e, he, -, hblames⟩ := h { policy := {} } [brokenDocument] brokenDocument "page" "load" _
    brokenDistribution _ .bucketCount (List.mem_singleton_self _) hd rfl rfl rfl (by decide)
    (by decide) (wrongKind_brokenDistribution (by decide))
  have herrors : (Builder.addDocuments { policy := {} } [brokenDocument]).errors =
      [⟨.metric "page" "load", .wrongType "disabled" .boolean .string⟩,
        ⟨.metric "page" "load", .wrongType "range_max" .integer .string⟩] := by set_option maxRecDepth 4000 in decide
  rw [herrors] at he
  revert e
  decide

end TelemetryBindings
