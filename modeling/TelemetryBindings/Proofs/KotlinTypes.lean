import TelemetryBindings.Proofs.Enums
import TelemetryBindings.Proofs.TypeNames

/-!
# The types that generated Kotlin names

A declaration names its class and the classes of its literals, and nothing in it that comes from a
definition can be taken for a type: texts stand in strings, and names begin with a small letter.
-/
namespace TelemetryBindings

open Text

def Literal.types : Literal → List String
  | .lifetime _ => ["Lifetime"]
  | .timeUnit _ => ["TimeUnit"]
  | .memoryUnit _ => ["MemoryUnit"]
  | .histogramType _ => ["HistogramType"]
  | _ => []

def QualifiedName.names : QualifiedName → List String
  | .plain _ name => [name]
  | .applied _ name argument => name :: argument.names

def IsTypeName (name : String) : Prop := Unquoted name ∧ typeNames name = [name]

instance (name : String) : Decidable (IsTypeName name) :=
  inferInstanceAs (Decidable (Unquoted name ∧ typeNames name = [name]))

theorem typeNames_applied {cls argument : String} (hcls : Unquoted cls) (h : Unquoted argument) :
    Unquoted (cls ++ "<" ++ argument ++ ">") ∧
      typeNames (cls ++ "<" ++ argument ++ ">") = typeNames cls ++ typeNames argument := by
  refine ⟨?_, ?_⟩
  · simp only [unquoted_append]
    exact ⟨⟨⟨hcls, by decide⟩, h⟩, by decide⟩
  · rw [String.append_assoc, typeNames_between hcls (by decide), typeNames_before h (by decide)]

theorem QualifiedName.typeNames_simple (q : QualifiedName) (h : ∀ name ∈ q.names, IsTypeName name) :
    Unquoted q.simple ∧ typeNames q.simple = q.names := by
  induction q with
  | plain space name => exact h name (List.mem_singleton_self name)
  | applied space name argument ih =>
    obtain ⟨⟨hunquoted, hname⟩, hargument⟩ := List.forall_mem_cons.mp h
    obtain ⟨hsimple, hnames⟩ := ih hargument
    obtain ⟨happlied, htypes⟩ := typeNames_applied hunquoted hsimple
    rw [hname, hnames] at htypes
    exact ⟨happlied, htypes⟩

namespace Kotlin

variable (k : Kotlin)

/-! ### Names -/

theorem isCodeChar_camel (name : String) : (camel name).toList.all isCodeChar :=
  all_isCodeChar (isWordChar_camel name)

/-- A name in camel case, and whatever follows it in the same word, names no type. -/
theorem typeName?_camel_append {name : String} (h : camel name ≠ "") (ending : List Char) :
    typeName? ((camel name).toList ++ ending) = none := by
  obtain ⟨c, cs, hcs⟩ := List.exists_cons_of_ne_nil
    (show (camel name).toList ≠ [] by simpa using h)
  have hhead := isSmallChar_head_camel name
  rw [hcs] at hhead
  have hupper : c.isUpper = false := by
    simpa using (Bool.and_eq_true_iff.mp (hhead c rfl)).2
  rw [hcs, List.cons_append, typeName?, hupper]
  rfl

theorem typeNames_camel (name : String) : typeNames (camel name) = [] := by
  by_cases hempty : camel name = ""
  · rw [hempty]
    rfl
  · have hname := typeName?_camel_append hempty []
    rw [List.append_nil] at hname
    rw [typeNames_word (isCodeChar_camel name), hname]
    rfl

/-! ### Literals -/

theorem typeNames_number (n : Nat) : typeNames (toString n ++ "L") = [] := by
  have hdigit : ∀ c ∈ (toString n).toList, c.isDigit := fun c hc =>
    Nat.isDigit_of_mem_toDigits (b := 10) (by decide) (by decide)
      (show c ∈ Nat.toDigits 10 n by simpa [toString, Nat.repr] using hc)
  have hword : (toString n ++ "L").toList.all isCodeChar := by
    have hdigits : (toString n).toList.all isCodeChar := by
      rw [List.all_eq_true]
      intro c hc
      simp [isCodeChar, isWordChar, Char.isAlphanum, hdigit c hc]
    rw [String.toList_append, List.all_append, hdigits]
    rfl
  obtain ⟨c, cs, hcs⟩ := List.exists_cons_of_ne_nil
    (show (toString n).toList ≠ [] by simp [toString, Nat.repr])
  have hupper : c.isUpper = false := by
    have hc := hdigit c (hcs ▸ List.mem_cons_self)
    have hnine : '9'.val.toNat < 'A'.val.toNat := by decide
    simp only [Char.isDigit, Bool.and_eq_true, decide_eq_true_eq, ge_iff_le,
      UInt32.le_iff_toNat_le] at hc
    simp only [Char.isUpper, decide_eq_false_iff_not, ge_iff_le, UInt32.le_iff_toNat_le]
    omega
  rw [typeNames_word hword, String.toList_append, hcs, List.cons_append, typeName?, hupper]
  rfl

theorem typeNames_int (i : Int) : typeNames (toString i ++ "L") = [] := by
  cases i with
  | ofNat n => exact typeNames_number n
  | negSucc n =>
    have hsign : toString (Int.negSucc n) ++ "L" = "" ++ "-" ++ (toString (n + 1) ++ "L") := by
      simp [← String.toList_inj, toString, Int.repr]
    rw [hsign, typeNames_between (by decide) (by decide +kernel), typeNames_number]
    rfl

theorem typeNames_string (s : String) : typeNames (string s) = [] := by
  have h := bare_string s []
  rw [List.append_nil] at h
  rw [typeNames, codeTypes, h]
  decide

/-- Of strings in a row only quotes and what separates them remain. -/
theorem exists_bare_strings (items : List String) : ∃ separators : List Char,
    (∀ c ∈ separators, isCodeChar c = false) ∧ ∀ b, bare .outside ((strings items).toList ++ b) =
      separators ++ bare .outside b := by
  have hquotes : ∀ c ∈ ['"', '"'], isCodeChar c = false :=
    List.forall_mem_cons.mpr ⟨by decide, List.forall_mem_singleton.mpr (by decide)⟩
  have hcomma : ∀ c ∈ [',', ' '], isCodeChar c = false :=
    List.forall_mem_cons.mpr ⟨by decide, List.forall_mem_singleton.mpr (by decide)⟩
  induction items with
  | nil => exact ⟨[], fun c hc => absurd hc List.not_mem_nil, fun b => rfl⟩
  | cons s items ih =>
    cases items with
    | nil => exact ⟨['"', '"'], hquotes, bare_string s⟩
    | cons next items =>
      obtain ⟨separators, hseparators, hbare⟩ := ih
      refine ⟨['"', '"'] ++ ([',', ' '] ++ separators), List.forall_mem_append.mpr
        ⟨hquotes, List.forall_mem_append.mpr ⟨hcomma, hseparators⟩⟩, fun b => ?_⟩
      have hrest := hbare b
      rw [strings, List.map_cons, List.map_cons, joinWith_cons_cons]
      simp only [strings, List.map_cons] at hrest
      simp only [String.toList_append, List.append_assoc, bare_string]
      rw [bare_outside (show '"' ∉ ", ".toList by decide), hrest]
      rfl

theorem typeNames_strings (opening : String) (h : opening.toList.all isCodeChar)
    (hname : typeName? opening.toList = none) (items : List String) :
    typeNames (opening ++ "(" ++ strings items ++ ")") = [] := by
  obtain ⟨separators, hseparators, hbare⟩ := exists_bare_strings items
  have hitems : codeTypes ((strings items).toList ++ [')']) = [] := by
    rw [codeTypes, hbare, typesIn_separators hseparators]
    decide
  have htext : opening ++ "(" ++ strings items ++ ")" = opening ++ "(" ++ (strings items ++ ")") :=
    String.append_assoc
  have hend : (strings items ++ ")").toList = (strings items).toList ++ [')'] := by simp
  rw [htext, typeNames_between (unquoted_of_word h) (by decide), typeNames_word h, hname, typeNames,
    hend, hitems]
  rfl

theorem typeNames_literal (l : Literal) : typeNames (literal l) = l.types := by
  cases l with
  | bool b => cases b <;> decide
  | int i => exact typeNames_int i
  | string s => exact typeNames_string s
  | lifetime l => cases l <;> decide
  | timeUnit u => cases u <;> decide
  | memoryUnit u => cases u <;> decide
  | histogramType h => cases h <;> decide
  | list items => exact typeNames_strings "listOf" (by decide) (by decide) items
  | set items => exact typeNames_strings "setOf" (by decide) (by decide) items

/-! ### Calls -/

def IsArgumentName (name : String) : Prop := Unquoted name ∧ typeNames name = []

instance (name : String) : Decidable (IsArgumentName name) :=
  inferInstanceAs (Decidable (Unquoted name ∧ typeNames name = []))

theorem isArgumentName_camel (name : String) : IsArgumentName (camel name) :=
  ⟨unquoted_of_word (isCodeChar_camel name), typeNames_camel name⟩

theorem typeNames_argumentLines {arguments : List (String × String)}
    (h : ∀ a ∈ arguments, IsArgumentName a.1) :
    typeNames (argumentLines arguments " = " indent) = arguments.flatMap (typeNames ·.2) := by
  rw [argumentLines, typeNames_joinWith_comma, List.flatMap_map]
  refine List.flatMap_congr fun ⟨name, value⟩ ha => ?_
  obtain ⟨hunquoted, hname⟩ := h _ ha
  have hindented : Unquoted (indent ++ name) := unquoted_append.mpr ⟨by decide, hunquoted⟩
  rw [typeNames_between hindented (by decide), typeNames_indent, hname]
  rfl

theorem typeNames_callWith {constructor : String} (hc : Unquoted constructor)
    (arguments : List Argument) {extra : List (String × String)}
    (h : ∀ a ∈ extra, IsArgumentName a.1) :
    typeNames (callWith constructor arguments extra) =
      typeNames constructor ++
        (arguments.flatMap (·.value.types) ++ extra.flatMap (typeNames ·.2)) := by
  have hspelled : ∀ a ∈ spellArguments literal arguments ++ extra, IsArgumentName a.1 :=
    List.forall_mem_append.mpr ⟨List.forall_mem_map.mpr fun a _ => isArgumentName_camel a.name, h⟩
  have hvalues : (spellArguments literal arguments).flatMap (typeNames ·.2) =
      arguments.flatMap (·.value.types) := by
    rw [spellArguments, List.flatMap_map]
    exact List.flatMap_congr fun a _ => typeNames_literal a.value
  have htext : callWith constructor arguments extra = constructor ++ "(\n" ++
      (argumentLines (spellArguments literal arguments ++ extra) " = " indent ++ "\n" ++ ")") := by
    simp [← String.toList_inj, callWith]
  have hend : typeNames ")" = [] := by decide
  rw [htext, typeNames_between hc (by decide), typeNames_lineFeed, typeNames_argumentLines hspelled,
    List.flatMap_append, hvalues, hend, List.append_nil]

/-! ### Classes -/

theorem isTypeName_classWord (v : Variant) : IsTypeName (classWord "PingType" v) := by
  cases v <;> decide

theorem name_className (v : Variant) : (k.className v).name = classWord "PingType" v := by
  cases v <;> rfl

theorem isTypeName_className (v : Variant) : IsTypeName (k.className v).name :=
  k.name_className v ▸ isTypeName_classWord v

theorem exists_classWord (v : Variant) :
    ∀ name ∈ (k.className v).names, ∃ w : Variant, name = classWord "PingType" w := by
  rw [className, runtimeClass]
  split
  · exact List.forall_mem_cons.mpr ⟨⟨v, rfl⟩, List.forall_mem_singleton.mpr ⟨_, rfl⟩⟩
  · exact List.forall_mem_singleton.mpr ⟨v, rfl⟩

theorem typeNames_simple (v : Variant) :
    Unquoted (k.className v).simple ∧
      typeNames (k.className v).simple = (k.className v).names := by
  refine QualifiedName.typeNames_simple _ fun name hname => ?_
  obtain ⟨w, rfl⟩ := k.exists_classWord v name hname
  exact isTypeName_classWord w

theorem imports_className (v : Variant) :
    (k.className v).imports = (k.className v).names.map (QualifiedName.qualify k.runtime) := by
  cases v <;> rfl

/-! ### Enums -/

section

variable (i : Instrument)

theorem isCodeChar_enumName : (enumName i).toList.all isCodeChar :=
  all_isCodeChar (isWordChar_enumName i)

/-- The name of an enum is no type name, unless it is nothing but its ending. -/
theorem typeName?_enumName : typeName? (enumName i).toList = none ∨ enumName i = i.enumSuffix := by
  rw [enumName]
  by_cases hempty : camel i.name = ""
  · exact Or.inr (by rw [hempty, String.empty_append])
  · exact Or.inl (by rw [String.toList_append, typeName?_camel_append hempty])

theorem typeNames_enumName : ∀ type ∈ typeNames (enumName i), type = enumName i := by
  rw [typeNames_word (isCodeChar_enumName i)]
  rcases typeName?_enumName i with h | h
  · rw [h]
    exact fun type htype => absurd htype List.not_mem_nil
  · rw [h]
    cases i <;> simp [Instrument.enumSuffix, typeName?]

end

/-! ### Declarations -/

def argumentTypes (i : Instrument) : List String :=
  match i.keys? with
  | some [] => [i.keylessType]
  | some _ => typeNames (enumName i)
  | none => []

theorem typeNames_propertyType (i : Instrument) :
    Unquoted (k.propertyType i) ∧
      typeNames (k.propertyType i) = (k.className i.variant).names ++ argumentTypes i := by
  obtain ⟨hunquoted, hnames⟩ := k.typeNames_simple i.variant
  rw [propertyType, Instrument.appliedClass, argumentTypes, ← hnames]
  cases i.keys? with
  | none =>
    rw [List.append_nil]
    exact ⟨hunquoted, rfl⟩
  | some keys =>
    cases keys with
    | nil =>
      have hkeyless : IsTypeName i.keylessType := by
        cases i <;> rw [Instrument.keylessType] <;> decide
      have h := typeNames_applied hunquoted hkeyless.1
      rwa [hkeyless.2] at h
    | cons key keys => exact typeNames_applied hunquoted (unquoted_of_word (isCodeChar_enumName i))

theorem typeNames_declaration (i : Instrument) :
    typeNames (k.declaration i) =
      (k.className i.variant).names ++ argumentTypes i ++ typeNames (k.call i) := by
  obtain ⟨hunquoted, htypes⟩ := k.typeNames_propertyType i
  have hidentifier : Unquoted ("val" ++ " " ++ i.identifier) ∧
      typeNames ("val" ++ " " ++ i.identifier) = [] := by
    refine ⟨unquoted_append.mpr ⟨by decide, unquoted_of_word (isCodeChar_camel i.name)⟩, ?_⟩
    rw [typeNames_between (by decide) (by decide), Instrument.identifier, typeNames_camel]
    rfl
  have hproperty : Unquoted ("val" ++ " " ++ i.identifier ++ ": " ++ k.propertyType i) ∧
      typeNames ("val" ++ " " ++ i.identifier ++ ": " ++ k.propertyType i) =
        (k.className i.variant).names ++ argumentTypes i := by
    refine ⟨unquoted_append.mpr ⟨unquoted_append.mpr ⟨hidentifier.1, by decide⟩, hunquoted⟩, ?_⟩
    rw [typeNames_between hidentifier.1 (by decide), hidentifier.2, htypes, List.nil_append]
  rw [← hproperty.2]
  cases i with
  | metric m =>
    have htext : k.declaration (.metric m) =
        "val" ++ " " ++ (Instrument.metric m).identifier ++ ": " ++ k.propertyType (.metric m) ++
          " by lazy \x7b\n" ++ (indentAll indent (k.call (.metric m)) ++ "\n" ++ "\x7d") := by
      simp [← String.toList_inj, declaration]
    have hend : typeNames "\x7d" = [] := by decide
    rw [htext, typeNames_between hproperty.1 (by decide), typeNames_lineFeed, typeNames_indentAll,
      hend, List.append_nil]
  | ping p =>
    have htext : k.declaration (.ping p) =
        "val" ++ " " ++ (Instrument.ping p).identifier ++ ": " ++ k.propertyType (.ping p) ++
          " = " ++ k.call (.ping p) := by
      simp [← String.toList_inj, declaration]
    rw [htext, typeNames_between hproperty.1 (by decide)]

theorem flatMap_types_arguments (m : Metric) :
    m.arguments.flatMap (·.value.types) = "Lifetime" :: m.type.arguments.flatMap (·.value.types) :=
  rfl

theorem typeNames_subMetricCall (m : Metric) (inner : LabeledInner) :
    typeNames (k.subMetricCall m inner) = [(k.className inner.variant).name, "Lifetime"] := by
  rw [subMetricCall, typeNames_callWith (k.isTypeName_className _).1 _ (by simp),
    (k.isTypeName_className _).2]
  rfl

/-- The types that the arguments of a metric name beyond those that all targets write. -/
def extraTypes : MetricType → List String
  | .labeled inner _ => [(k.className inner.variant).name, "Lifetime"]
  | _ => []

theorem typeNames_metricCall (m : Metric) :
    typeNames (k.metricCall m) = (k.className m.variant).name :: "Lifetime" ::
      (m.type.arguments.flatMap (·.value.types) ++ k.extraTypes m.type) := by
  have hkeys : IsArgumentName "allowedExtraKeys" := by decide
  have hlabels : IsArgumentName "labels" := by decide
  have hsub : IsArgumentName "subMetric" := by decide
  have hnames : ∀ a ∈ k.extraArguments m, IsArgumentName a.1 := by
    rw [extraArguments]
    split
    · simpa using hkeys
    · split <;> simp [hlabels, hsub]
    · simp
  have hextra : (k.extraArguments m).flatMap (typeNames ·.2) = k.extraTypes m.type := by
    unfold extraArguments extraTypes
    cases m.type with
    | event extraKeys => simp [typeNames_literal, Literal.types]
    | labeled inner labels =>
      cases labels <;> simp [typeNames_literal, Literal.types, typeNames_indentContinuation,
        typeNames_subMetricCall]
    | _ => rfl
  rw [metricCall, typeNames_callWith (k.isTypeName_className _).1 _ hnames,
    (k.isTypeName_className _).2, flatMap_types_arguments, hextra]
  rfl

theorem typeNames_pingCall (p : Ping) : typeNames (k.pingCall p) = [(k.className .ping).name] := by
  rw [pingCall, typeNames_callWith (k.isTypeName_className _).1 _ (by simp),
    (k.isTypeName_className _).2]
  rfl

def runtimeTypes (i : Instrument) : List String :=
  (k.className i.variant).names ++
    match i with
    | .metric m => "Lifetime" :: ((k.argumentType? m.type).map (·.names)).getD []
    | .ping p => if p.reasons.isEmpty then ["NoReasonCodes"] else []

theorem mentioned_eq (i : Instrument) :
    k.mentioned i = (k.runtimeTypes i).map (QualifiedName.qualify k.runtime) := by
  unfold mentioned runtimeTypes
  rw [List.map_append, imports_className]
  congr 1
  cases i with
  | metric m =>
    rw [List.map_cons]
    refine congrArg (_ :: ·) ?_
    cases m.type with
    | labeled inner labels => exact k.imports_className inner.variant
    | event extraKeys =>
      rw [argumentType?]
      split <;> rfl
    | _ => rfl
  | ping p => cases hempty : p.reasons.isEmpty <;> simp [hempty, runtimeType, QualifiedName.imports]

theorem name_mem_names (v : Variant) : (k.className v).name ∈ (k.className v).names := by
  cases v <;> exact List.mem_cons_self

theorem mem_argumentTypes_iff {i : Instrument} {type : String} (h : type ≠ enumName i) :
    type ∈ argumentTypes i ↔ i.keys? = some [] ∧ type = i.keylessType := by
  rw [argumentTypes]
  cases i.keys? with
  | none => simp
  | some keys =>
    cases keys with
    | nil => simp
    | cons key keys => simpa using fun hmem => h (typeNames_enumName i type hmem)

theorem names_labeledInner (inner : LabeledInner) :
    (k.className inner.variant).names = [(k.className inner.variant).name] := by
  cases inner <;> rfl

/-- Beside the lifetime, a metric names the type that is imported for its arguments. -/
theorem mem_types_iff (m : Metric) (type : String) :
    ((Instrument.metric m).keys? = some [] ∧ type = "NoExtraKeys") ∨ type = "Lifetime" ∨
        type ∈ m.type.arguments.flatMap (·.value.types) ++ k.extraTypes m.type ↔
      type = "Lifetime" ∨ type ∈ ((k.argumentType? m.type).map (·.names)).getD [] := by
  rw [Instrument.keys?, Metric.extraKeyNames?]
  cases m.type with
  | event extraKeys =>
    have hempty : extraKeys.keys = [] ↔ extraKeys.isEmpty := by
      simp [OrderedMap.isEmpty, OrderedMap.keys]
    by_cases h : extraKeys.isEmpty <;>
      simp [hempty, h, MetricType.arguments, extraTypes, argumentType?, runtimeType,
        QualifiedName.names, or_comm]
  | labeled inner labels =>
    simp only [MetricType.arguments, extraTypes, argumentType?, Option.map_some, Option.getD_some,
      names_labeledInner, reduceCtorEq, false_and, List.flatMap_nil, List.nil_append,
      List.mem_cons, List.not_mem_nil, or_false, false_or]
    tauto
  | _ =>
    simp [MetricType.arguments, Literal.types, extraTypes, argumentType?, runtimeType,
      QualifiedName.names]

/-- What is already among some is not counted again. -/
theorem or_absorb {names argument name rest : Prop} (h : name → names) :
    ((names ∨ argument) ∨ name ∨ rest) ↔ names ∨ argument ∨ rest := by
  tauto

theorem mem_typeNames_entry_iff {i : Instrument} {type : String} (h : type ≠ enumName i) :
    type ∈ typeNames (k.entry i).declaration ↔ type ∈ k.runtimeTypes i := by
  have hdeclaration : typeNames (k.entry i).declaration = _ := k.typeNames_declaration i
  have hclass : type = (k.className i.variant).name → type ∈ (k.className i.variant).names :=
    fun htype => htype ▸ k.name_mem_names i.variant
  rw [hdeclaration, List.mem_append, List.mem_append, mem_argumentTypes_iff h, runtimeTypes.eq_def,
    List.mem_append]
  cases i with
  | metric m =>
    have hcall : typeNames (k.call (.metric m)) = _ := k.typeNames_metricCall m
    rw [hcall, List.mem_cons, List.mem_cons, List.mem_cons, ← k.mem_types_iff m type]
    exact or_absorb hclass
  | ping p =>
    have hcall : typeNames (k.call (.ping p)) = _ := k.typeNames_pingCall p
    have hreasons : (Instrument.ping p).keys? = some [] ↔ p.reasons.isEmpty := by
      simp [Instrument.keys?, OrderedMap.isEmpty, OrderedMap.keys]
    have hargument : type ∈ (if p.reasons.isEmpty then ["NoReasonCodes"] else []) ↔
        p.reasons.isEmpty ∧ type = "NoReasonCodes" := by
      split <;> simp [*]
    rw [hcall, hreasons, hargument, ← or_false (type ∈ [_]), List.mem_singleton]
    exact (or_absorb hclass).trans (by rw [or_false]; rfl)

def runtimeTypeNames : List String :=
  ["Lifetime", "TimeUnit", "MemoryUnit", "HistogramType", "NoExtraKeys", "NoReasonCodes"] ++
    Vocabulary.all.map (classWord "PingType")

/-- Runtime types have names of one line, which are no endings of the names of enums. -/
theorem runtimeTypeNames_spec : ∀ type ∈ runtimeTypeNames,
    OneLine type ∧ typeName? type.toList ≠ none ∧ type ≠ "Keys" ∧ type ≠ "ReasonCodes" := by
  decide

theorem mem_runtimeTypeNames_className (v : Variant) :
    ∀ type ∈ (k.className v).names, type ∈ runtimeTypeNames := by
  intro type htype
  obtain ⟨w, rfl⟩ := k.exists_classWord v type htype
  have hall : w ∈ Vocabulary.all := by cases w <;> decide
  exact List.mem_append_right _ (List.mem_map_of_mem hall)

theorem mem_runtimeTypeNames_argumentType (t : MetricType) :
    ∀ type ∈ ((k.argumentType? t).map (·.names)).getD [], type ∈ runtimeTypeNames := by
  have hnone : ∀ type ∈ ([] : List String), type ∈ runtimeTypeNames := by decide
  unfold argumentType?
  split
  · exact k.mem_runtimeTypeNames_className _
  · split
    · exact List.forall_mem_singleton.mpr (by decide)
    · exact hnone
  · exact List.forall_mem_singleton.mpr (by decide)
  · exact List.forall_mem_singleton.mpr (by decide)
  · exact List.forall_mem_singleton.mpr (by decide)
  · exact List.forall_mem_singleton.mpr (by decide)
  · exact List.forall_mem_singleton.mpr (by decide)
  · exact hnone

theorem mem_runtimeTypeNames {i : Instrument} :
    ∀ type ∈ k.runtimeTypes i, type ∈ runtimeTypeNames := by
  refine List.forall_mem_append.mpr ⟨k.mem_runtimeTypeNames_className _, ?_⟩
  cases i with
  | metric m =>
    exact List.forall_mem_cons.mpr ⟨by decide, k.mem_runtimeTypeNames_argumentType m.type⟩
  | ping p =>
    have hreasons : "NoReasonCodes" ∈ runtimeTypeNames := by decide
    cases hempty : p.reasons.isEmpty <;> simp [hempty, hreasons]

theorem ne_enumName {type : String} (h : type ∈ runtimeTypeNames) (i : Instrument) :
    type ≠ enumName i := by
  rintro rfl
  obtain ⟨-, hname, hkeys, hreasons⟩ := runtimeTypeNames_spec _ h
  rcases typeName?_enumName i with hnone | hsuffix
  · exact hname hnone
  · cases i with
    | metric m => exact hkeys hsuffix
    | ping p => exact hreasons hsuffix

/-- A type is cited by an instrument whose declaration names it, unless it is the enum that stands
before the declaration. -/
def Cites (i : Instrument) (type : String) : Prop :=
  type ∈ typeNames (k.entry i).declaration ∧ type ≠ enumName i

theorem cites_iff {i : Instrument} {type : String} : k.Cites i type ↔ type ∈ k.runtimeTypes i := by
  constructor
  · rintro ⟨hmem, hne⟩
    exact (k.mem_typeNames_entry_iff hne).mp hmem
  · intro h
    have hne := ne_enumName (k.mem_runtimeTypeNames _ h) i
    exact ⟨(k.mem_typeNames_entry_iff hne).mpr h, hne⟩

end Kotlin

end TelemetryBindings
