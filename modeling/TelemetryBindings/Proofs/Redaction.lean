import Mathlib.Data.List.Basic
import TelemetryBindings.Definition.Document

/-!
# Definitions without their free text

Free text is what a definition says to people only: descriptions, bugs, data reviews and addresses.
A definition whose free text was blanked out is read with the same problems as before, and as the
same metric or ping but for that text.
-/
namespace TelemetryBindings

namespace Node

def blank : Node → Node
  | .string _ => .string ""
  | node => node

def mapItems (f : Node → Node) : Node → Node
  | .list items => .list (items.map f)
  | node => node

def mapValues (f : String → Node → Node) : Node → Node
  | .mapping entries => .mapping (entries.map fun e => (e.1, f e.1 e.2))
  | node => node

@[simp] theorem kind_blank (node : Node) : node.blank.kind = node.kind := by
  cases node <;> rfl

def redactExtraKey (field : String) (node : Node) : Node :=
  if field = "description" then node.blank else node

end Node

/-- The value of an attribute without free text. -/
def Attribute.redact : Attribute → Node → Node
  | .description => Node.blank
  | .bugs | .dataReviews | .notificationEmails => Node.mapItems Node.blank
  | .reasons => Node.mapValues fun _ => Node.blank
  | .extraKeys => Node.mapValues fun _ => Node.mapValues Node.redactExtraKey
  | _ => id

def Node.redactValue (key : String) (node : Node) : Node :=
  match (Vocabulary.ofWord? key : Option Attribute) with
  | some a => a.redact node
  | none => node

def Definition.redact (d : Definition) : Definition := d.map fun e => (e.1, e.2.redactValue e.1)

def Node.redactDefinition : Node → Node := Node.mapValues Node.redactValue

def OrderedMap.blank (m : OrderedMap String) : OrderedMap String :=
  ⟨m.keys.map fun key => (key, "")⟩

@[simp] theorem OrderedMap.keys_blank (m : OrderedMap String) : m.blank.keys = m.keys := by
  simp [blank, keys]

@[simp] theorem OrderedMap.isEmpty_blank (m : OrderedMap String) : m.blank.isEmpty = m.isEmpty := by
  simp [blank, keys, isEmpty]

def MetricType.redact : MetricType → MetricType
  | .event extraKeys => .event extraKeys.blank
  | type => type

def Metric.redact (m : Metric) : Metric :=
  { m with
    type := m.type.redact, description := "", bugs := [], dataReviews := []
    notificationEmails := [], origin := "" }

def Ping.redact (q : Ping) : Ping :=
  { q with
    description := "", bugs := [], dataReviews := [], notificationEmails := []
    reasons := q.reasons.blank, origin := "" }

/-! ### Values that differ in free text only -/

/-- The checked values have the same problems, and the values look the same through `f`. -/
structure Checked.SameBut {α β : Type} (f : α → β) (c c' : Checked α) : Prop where
  problems : c.problems = c'.problems
  value : f c.value = f c'.value

namespace Checked.SameBut

variable {α β γ δ : Type} {f : α → β} {g : γ → δ}

theorem refl (c : Checked α) : SameBut f c c := ⟨rfl, rfl⟩

theorem pure {a a' : α} (h : f a = f a') : SameBut f (Pure.pure a) (Pure.pure a') := ⟨rfl, h⟩

theorem bind {c c' : Checked α} {k k' : α → Checked γ} (h : SameBut f c c')
    (hk : ∀ a a', f a = f a' → SameBut g (k a) (k' a')) : SameBut g (c >>= k) (c' >>= k') := by
  have hrest := hk c.value c'.value h.value
  refine ⟨?_, hrest.value⟩
  rw [problems_bind, problems_bind, h.problems, hrest.problems]

theorem bind_of_eq {c c' : Checked α} {k k' : α → Checked γ} (hc : c = c')
    (hk : ∀ a, SameBut g (k a) (k' a)) : SameBut g (c >>= k) (c' >>= k') := by
  have hrest := hk c.value
  subst hc
  refine ⟨?_, hrest.value⟩
  rw [problems_bind, problems_bind, hrest.problems]

theorem bind_same {c : Checked α} {k k' : α → Checked γ} (hk : ∀ a, SameBut g (k a) (k' a)) :
    SameBut g (c >>= k) (c >>= k') :=
  bind_of_eq rfl hk

/-- Two folds stay alike if every step does. -/
theorem foldlM {ι : Type} {step : α → ι → Checked α} {change : ι → ι}
    (hstep : ∀ a a' i, f a = f a' → SameBut f (step a (change i)) (step a' i)) (l : List ι)
    {a a' : α} (h : f a = f a') :
    SameBut f ((l.map change).foldlM step a) (l.foldlM step a') := by
  induction l generalizing a a' with
  | nil => exact pure h
  | cons i l ih =>
    rw [List.map_cons, List.foldlM_cons, List.foldlM_cons]
    exact (hstep a a' i h).bind fun b b' hb => ih hb

theorem clean {f : α → β} {c c' : Checked (Option α)} (h : SameBut (Option.map f) c c') :
    SameBut (Option.map f) c.clean c'.clean := by
  rw [Checked.clean, Checked.clean, h.problems]
  split
  · exact h
  · exact ⟨rfl, rfl⟩

end Checked.SameBut

/-! ### Reading attributes -/

namespace Definition

variable {d : Definition} {p : Policy}

theorem find?_redact (d : Definition) (a : Attribute) :
    d.redact.find? a = (d.find? a).map a.redact := by
  rw [find?, find?, redact, List.find?_map]
  have hkey : ((·.1 == a.key) ∘ fun e : String × Node => (e.1, e.2.redactValue e.1)) =
      (·.1 == a.key) := rfl
  rw [hkey]
  cases hfind : List.find? (·.1 == a.key) d with
  | none => rfl
  | some e =>
    have he : e.1 = a.key := by simpa using List.find?_some hfind
    simp [Node.redactValue, he, Attribute.ofWord?_key]

/-- Attributes without free text are found as they were. -/
theorem find?_redact_of_id {a : Attribute} (ha : a.redact = id) : d.redact.find? a = d.find? a := by
  rw [find?_redact, ha, Option.map_id, id]

theorem keyProblems_redact (v : Variant) (seen : List String) (d : Definition) :
    keyProblems v seen d.redact = keyProblems v seen d := by
  induction d generalizing seen with
  | nil => rfl
  | cons e d ih =>
    rw [redact, List.map_cons, ← redact, keyProblems, keyProblems]
    simp only [ih]

theorem checkSchema_redact (v : Variant) : checkSchema v d.redact = checkSchema v d := by
  have hmissing : missingProblems v d.redact = missingProblems v d := by
    simp only [missingProblems, find?_redact, Option.isNone_map]
  rw [checkSchema, checkSchema, keyProblems_redact, hmissing]

/-- Reading an attribute without free text gives what it gave. -/
theorem read_redact {α : Type} {a : Attribute} (ha : a.redact = id) (expected : Expected)
    (view : Node → Option α) : d.redact.read a expected view = d.read a expected view := by
  rw [read, read, find?_redact_of_id ha]

theorem description_redact :
    Checked.SameBut Option.isSome (d.redact.string .description) (d.string .description) := by
  rw [string, string, read, read, find?_redact]
  cases d.find? .description with
  | none => exact .refl _
  | some node => cases node <;> first | exact .refl _ | exact ⟨rfl, rfl⟩

theorem itemText?_blank (allowIntegers : Bool) (node : Node) :
    (itemText? allowIntegers node.blank).isNone = (itemText? allowIntegers node).isNone := by
  cases node <;> rfl

/-- Blank items of a list are refused where the items were. -/
theorem texts_redact (a : Attribute) (allowIntegers : Bool) (node : Node) :
    (texts a allowIntegers (node.mapItems Node.blank)).problems =
      (texts a allowIntegers node).problems := by
  cases node with
  | list items =>
    have hproblem : wrongType a .stringList ∘ Node.blank = wrongType a .stringList := by
      funext item
      simp [wrongType]
    simp only [Node.mapItems, texts, List.filter_map, List.map_map, hproblem]
    exact congrArg (List.map _) (List.filter_congr fun item _ => itemText?_blank _ item)
  | _ => rfl

theorem stringList_redact {a : Attribute} (ha : a.redact = Node.mapItems Node.blank) :
    Checked.SameBut (fun _ => ()) (d.redact.stringList a) (d.stringList a) := by
  rw [stringList, stringList, find?_redact, ha]
  cases d.find? a with
  | none => exact .refl _
  | some node => exact ⟨texts_redact a false node, rfl⟩

theorem nonEmptyTexts_redact {a : Attribute} (ha : a.redact = Node.mapItems Node.blank)
    (allowIntegers : Bool) :
    Checked.SameBut (fun _ => ()) (d.redact.nonEmptyTexts a allowIntegers)
      (d.nonEmptyTexts a allowIntegers) := by
  rw [nonEmptyTexts, nonEmptyTexts, find?_redact, ha]
  cases d.find? a with
  | none => exact .refl _
  | some node =>
    have htexts : Checked.SameBut (fun _ => ()) (texts a allowIntegers (node.mapItems Node.blank))
      (texts a allowIntegers node) := ⟨texts_redact a allowIntegers node, rfl⟩
    refine htexts.bind fun values values' _ => ?_
    match node with
    | .list [] => exact ⟨rfl, rfl⟩
    | .list (item :: items) => exact ⟨rfl, rfl⟩
    | .null | .bool _ | .integer _ | .float _ | .string _ | .mapping _ => exact ⟨rfl, rfl⟩

/-! ### Reading keyed texts -/

theorem contains_congr {m m' : OrderedMap String} (h : m.keys = m'.keys) (key : String) :
    m.contains key = m'.contains key := by
  have hkeys : ∀ n : OrderedMap String, n.contains key = n.keys.any (· == key) := fun n => by
    simp [OrderedMap.contains, OrderedMap.keys, List.any_map, Function.comp_def]
  rw [hkeys, hkeys, h]

section

variable {what : Subject} {maxLength : Nat}
  {description : String → Node → Checked (Option String)} {repeated : String → Problem}
  {change : Node → Node}

/-- What an insertion does to the keys depends on the keys alone. -/
theorem insert_redact {m m' : OrderedMap String} (h : m.keys = m'.keys) (key : String)
    (text text' : Option String) : text.isSome = text'.isSome → Checked.SameBut OrderedMap.keys
      (match text with
      | none => pure m
      | some text =>
        match m.insert key text with
        | .ok m => pure m
        | .error key => do
          Checked.report (repeated key)
          return m)
      (match text' with
      | none => pure m'
      | some text =>
        match m'.insert key text with
        | .ok m => pure m
        | .error key => do
          Checked.report (repeated key)
          return m') := by
  intro htext
  match text, text', htext with
  | none, none, _ => exact .pure h
  | some text, some text', _ =>
    simp only [OrderedMap.insert, contains_congr h key]
    by_cases hseen : m'.contains key
    · simp only [if_pos hseen]
      exact .bind_same fun _ => .pure h
    · simp only [if_neg hseen]
      refine .pure ?_
      simp only [OrderedMap.keys, List.map_append] at h ⊢
      rw [h]
      rfl

/-- Whether a key is added depends on its description only through the problems with it. -/
theorem addKey_redact
    (hd : ∀ key node, Checked.SameBut Option.isSome (description key (change node))
      (description key node)) (m m' : OrderedMap String) (e : String × Node)
    (h : m.keys = m'.keys) :
    Checked.SameBut OrderedMap.keys
      (addKey p what maxLength description repeated m (e.1, change e.2))
      (addKey p what maxLength description repeated m' e) := by
  obtain ⟨key, node⟩ := e
  simp only [addKey]
  split
  · exact .bind_same fun _ => .pure h
  · split
    · exact .bind_same fun _ => (hd key node).bind (insert_redact h key)
    · exact (hd key node).bind (insert_redact h key)

theorem keyedTexts_redact {a : Attribute} (ha : a.redact = Node.mapValues fun _ => change)
    (hd : ∀ key node, Checked.SameBut Option.isSome (description key (change node))
      (description key node)) :
    Checked.SameBut OrderedMap.keys
      (d.redact.keyedTexts a p what maxLength description repeated)
      (d.keyedTexts a p what maxLength description repeated) := by
  rw [keyedTexts, keyedTexts, find?_redact, ha]
  cases d.find? a with
  | none => exact .refl _
  | some node =>
    cases node with
    | mapping entries =>
      refine (Checked.SameBut.foldlM (addKey_redact hd) entries rfl).bind fun m m' hm => ?_
      rw [hm]
      exact .bind_same fun _ => .pure hm
    | _ => exact .refl _

end

theorem reasonDescription_redact (code : String) (node : Node) :
    Checked.SameBut Option.isSome (reasonDescription code node.blank)
      (reasonDescription code node) := by
  cases node <;> exact ⟨rfl, rfl⟩

theorem extraKeyProblem?_redact (key : String) (e : String × Node) :
    extraKeyProblem? key (e.1, e.2.redactExtraKey e.1) = extraKeyProblem? key e := by
  obtain ⟨field, node⟩ := e
  simp only [Node.redactExtraKey, extraKeyProblem?]
  split
  · cases node <;> rfl
  · rfl

theorem lastDescription?_redact (entries : List (String × Node)) :
    (lastDescription? (entries.map fun e => (e.1, e.2.redactExtraKey e.1))).isSome =
      (lastDescription? entries).isSome := by
  have hunit : ∀ l : List String, l.getLast?.isSome = (l.map fun _ => ()).getLast?.isSome :=
    fun l => by rw [List.getLast?_map, Option.isSome_map]
  rw [lastDescription?, lastDescription?, hunit, hunit, List.filterMap_map, List.map_filterMap,
    List.map_filterMap]
  refine congrArg (fun l => (List.getLast? l).isSome)
    (List.filterMap_congr fun e _ => ?_)
  obtain ⟨field, node⟩ := e
  simp only [Function.comp_apply, Node.redactExtraKey]
  split
  · cases node <;> rfl
  · rfl

theorem extraKeyDescription_redact (key : String) (node : Node) :
    Checked.SameBut Option.isSome
      (extraKeyDescription key (node.mapValues Node.redactExtraKey))
      (extraKeyDescription key node) := by
  cases node with
  | mapping entries =>
    refine ⟨?_, lastDescription?_redact entries⟩
    simp only [extraKeyDescription, Node.mapValues, List.any_map, List.filterMap_map,
      Function.comp_def, extraKeyProblem?_redact]
  | _ => exact ⟨rfl, rfl⟩

theorem extraKeys_redact :
    Checked.SameBut OrderedMap.keys (d.redact.extraKeys p) (d.extraKeys p) :=
  keyedTexts_redact rfl extraKeyDescription_redact

theorem reasons_redact : Checked.SameBut OrderedMap.keys (d.redact.reasons p) (d.reasons p) :=
  keyedTexts_redact rfl reasonDescription_redact

/-! ### Reading definitions -/

theorem metricVariant_redact : metricVariant d.redact = metricVariant d := by
  rw [metricVariant, metricVariant, find?_redact_of_id rfl]

theorem expires_redact : d.redact.expires = d.expires := by
  rw [expires, expires, find?_redact_of_id rfl]

theorem version_redact : d.redact.version = d.version := by
  rw [version, version, integer, integer, read_redact rfl]

theorem wordOr_redact {α : Type} [Vocabulary α] {a : Attribute} (ha : a.redact = id)
    (default : α) : d.redact.wordOr a default = d.wordOr a default := by
  rw [wordOr, wordOr, word, word, string, string, read_redact ha]

theorem boolOr_redact {a : Attribute} (ha : a.redact = id) (default : Bool) :
    d.redact.boolOr a default = d.boolOr a default := by
  rw [boolOr, boolOr, bool, bool, read_redact ha]

theorem sendInPings_redact (store : String) :
    d.redact.sendInPings store = d.sendInPings store := by
  rw [sendInPings, sendInPings, find?_redact_of_id rfl]

theorem labeledType_redact (inner : LabeledInner) :
    d.redact.labeledType inner = d.labeledType inner := by
  rw [labeledType, labeledType, labels, labels, find?_redact_of_id rfl]

theorem distributionType_redact : d.redact.distributionType = d.distributionType := by
  simp only [distributionType, integer, word, string, read_redact (a := .rangeMin) rfl,
    read_redact (a := .rangeMax) rfl, read_redact (a := .bucketCount) rfl,
    read_redact (a := .histogramType) rfl, read_redact (a := .unit) rfl]

/-- The type of a metric is read as it was but for the descriptions of extra keys. -/
theorem metricType_redact (v : Variant) :
    Checked.SameBut (Option.map MetricType.redact) (d.redact.metricType p v) (d.metricType p v) := by
  cases v with
  | event =>
    refine extraKeys_redact.bind fun m m' hm => .pure ?_
    rw [Option.map_some, Option.map_some, MetricType.redact, MetricType.redact, OrderedMap.blank,
      OrderedMap.blank, hm]
  | customDistribution =>
    rw [metricType, metricType, distributionType_redact]
    exact .refl _
  | labeledBoolean | labeledCounter | labeledString =>
    rw [metricType, metricType, labeledType_redact]
    exact .refl _
  | datetime | memoryDistribution | timespan | timingDistribution =>
    exact .bind_of_eq (wordOr_redact rfl _) fun unit => .refl _
  | quantity => exact .bind_of_eq (read_redact rfl _ _) fun unit => .refl _
  | _ => exact .refl _

theorem stores_redact {v : Variant} {type type' : Option MetricType}
    (h : type.map MetricType.redact = type'.map MetricType.redact) :
    d.redact.stores v type = d.stores v type' := by
  have hsome := congrArg Option.isSome h
  match type, type', hsome with
  | none, none, _ => rfl
  | some type, some type', _ => rw [stores, stores, sendInPings_redact]

theorem metricOf_redact {origin category name : String} {v : Variant} :
    Checked.SameBut (Option.map Metric.redact) (d.redact.metricOf p "" category name v)
      (d.metricOf p origin category name v) := by
  refine .bind_of_eq (checkSchema_redact v) fun _ => .bind_same fun _ => .bind_same fun _ => ?_
  refine description_redact.bind fun description description' hdescription => ?_
  refine (nonEmptyTexts_redact rfl true).bind fun bugs bugs' _ => ?_
  refine (stringList_redact rfl).bind fun dataReviews dataReviews' _ => ?_
  refine (nonEmptyTexts_redact rfl false).bind fun emails emails' _ => ?_
  refine .bind_of_eq expires_redact fun expires => ?_
  refine .bind_of_eq (wordOr_redact rfl _) fun lifetime => ?_
  refine .bind_of_eq (boolOr_redact rfl _) fun disabled => ?_
  refine .bind_of_eq version_redact fun version => ?_
  refine (metricType_redact v).bind fun type type' htype => ?_
  refine .bind_of_eq (stores_redact htype) fun stores => .pure ?_
  match expires, description, description', hdescription, type, type', htype, stores with
  | none, _, _, _, _, _, _, _ => rfl
  | some _, _, _, _, none, none, _, _ => rfl
  | some _, none, none, _, some _, some _, _, _ => rfl
  | some _, some _, some _, _, some _, some _, _, none => rfl
  | some expires, some _, some _, _, some type, some type', htype, some stores =>
    have hredact : type.redact = type'.redact := Option.some.inj htype
    simp [Metric.redact, hredact]

theorem pingOf_redact {origin name : String} :
    Checked.SameBut (Option.map Ping.redact) (d.redact.pingOf p "" name)
      (d.pingOf p origin name) := by
  refine .bind_of_eq (checkSchema_redact _) fun _ => .bind_same fun _ => .bind_same fun _ => ?_
  refine description_redact.bind fun description description' hdescription => ?_
  refine .bind_of_eq (read_redact rfl _ _) fun includeClientId => ?_
  refine .bind_of_eq (boolOr_redact rfl _) fun sendIfEmpty => ?_
  refine (nonEmptyTexts_redact rfl true).bind fun bugs bugs' _ => ?_
  refine (stringList_redact rfl).bind fun dataReviews dataReviews' _ => ?_
  refine (nonEmptyTexts_redact rfl false).bind fun emails emails' _ => ?_
  refine reasons_redact.bind fun reasons reasons' hreasons => .pure ?_
  match description, description', hdescription, includeClientId with
  | none, none, _, _ => rfl
  | some _, some _, _, none => rfl
  | some _, some _, _, some _ => simp [Ping.redact, OrderedMap.blank, hreasons]

end Definition

section

variable {p : Policy} {origin name : String} {node : Node}

/-- A metric definition without free text reads as it did, but for that text and its origin. -/
theorem readMetric_redact {category : String} :
    Checked.SameBut (Option.map Metric.redact)
      (readMetric p "" category name node.redactDefinition)
      (readMetric p origin category name node) := by
  cases node with
  | mapping d =>
    refine Checked.SameBut.clean ?_
    refine .bind_of_eq Definition.metricVariant_redact fun variant => ?_
    cases variant with
    | none => exact .refl _
    | some v => exact Definition.metricOf_redact
  | _ => exact ⟨rfl, rfl⟩

/-- A ping definition without free text reads as it did, but for that text and its origin. -/
theorem readPing_redact :
    Checked.SameBut (Option.map Ping.redact) (readPing p "" name node.redactDefinition)
      (readPing p origin name node) := by
  cases node with
  | mapping d => exact Definition.pingOf_redact.clean
  | _ => exact ⟨rfl, rfl⟩

end

end TelemetryBindings
