import TelemetryBindings.Proofs.DeclaredNames
import TelemetryBindings.Proofs.Enums
import TelemetryBindings.Proofs.RedactedDocuments
import TelemetryBindings.Proofs.RepeatedKeys

/-!
# Keys keep their order

The extra keys of an event and the reasons of a ping are written into the list that its constructor
takes and, by targets with enums, into an enum before the declaration, which is the type argument
of its class. All of them are read back as the same keys in the same order, and for a model that
was built this is the order of the document.
-/
namespace TelemetryBindings

open Text

/-! ### Lists of keys -/

theorem argumentLines_append (arguments : List (String × String)) (h : arguments ≠ [])
    (assign indent name value : String) :
    argumentLines (arguments ++ [(name, value)]) assign indent =
      argumentLines arguments assign indent ++ "," ++ "\n" ++ indent ++ name ++ assign ++
        value := by
  have hseparator : (",\n" : String) = "," ++ "\n" := rfl
  rw [argumentLines, List.map_append, joinWith_append _ (by simpa using h) (by simp), argumentLines]
  simp only [List.map_cons, List.map_nil, joinWith, hseparator, String.append_assoc]

namespace Target

theorem oneLine_list (t : Target) (items : List String) : OneLine (t.literal (.list items)) := by
  have hitems : OneLine (joinWith ", " (items.map fun s => t.literal (.string s))) :=
    oneLine_joinWith (by decide) (List.forall_mem_map.mpr fun s _ => t.oneLine_string s)
  cases t <;> exact oneLine_append.mpr ⟨oneLine_append.mpr ⟨by decide, hitems⟩, by decide⟩

/-- What stands before and after the list of keys, up to the end of the declaration. -/
def keyListMarks : Target → Instrument → String × String
  | .javascript, .metric _ => ("\n\x7d, ", ")")
  | .javascript, .ping _ => ("\n  reasonCodes: ", ",\n\x7d)")
  | .kotlin _, .metric _ => ("\n        allowedExtraKeys = ", "\n    )\n\x7d")
  | .kotlin _, .ping _ => ("\n    reasonCodes = ", "\n)")
  | .swift _, .metric _ => ("\n    allowedExtraKeys: ", "\n)")
  | .swift _, .ping _ => ("\n    reasonCodes: ", "\n)")

def ListsKeys (t : Target) (i : Instrument) (keys : List String) (declaration : String) : Prop :=
  ∃ front literal, declaration = front ++ (t.keyListMarks i).1 ++ literal ++ (t.keyListMarks i).2 ∧
    t.readList? literal.toList = some (keys, [])

theorem listsKeys_of_eq {t : Target} {i : Instrument} {keys : List String}
    {declaration : String} (front : String) (h : declaration =
      front ++ (t.keyListMarks i).1 ++ t.literal (.list keys) ++ (t.keyListMarks i).2) :
    t.ListsKeys i keys declaration := by
  have hread := t.readList?_list keys []
  rw [List.append_nil] at hread
  exact ⟨front, _, h, hread⟩

end Target

/-- The arguments of a ping before its reasons. -/
theorem Ping.exists_arguments (p : Ping) (literal : Literal → String) :
    ∃ arguments, arguments ≠ [] ∧ spellArguments literal p.arguments =
      arguments ++ [("reasonCodes", literal (.list p.reasons.keys))] := by
  have hname : camel "reason_codes" = "reasonCodes" := by decide
  refine ⟨spellArguments literal [⟨"name", .string p.name⟩,
    ⟨"include_client_id", .bool p.includeClientId⟩, ⟨"send_if_empty", .bool p.sendIfEmpty⟩],
    List.cons_ne_nil _ _, ?_⟩
  simp [spellArguments, Ping.arguments, hname]

/-- An event has its declared keys, and its class takes one type argument. -/
theorem Instrument.exists_event {m : Metric} {keys : List String}
    (h : (Instrument.metric m).keys? = some keys) :
    m.variant = .event ∧ m.type.arguments = [] ∧ ∃ extraKeys : OrderedMap String,
      m.type = .event extraKeys ∧ extraKeys.keys = keys := by
  obtain ⟨extraKeys, htype, hkeys⟩ := Instrument.keys?_metric_eq_some h
  refine ⟨by rw [Metric.variant, htype]; rfl, by rw [htype]; rfl, extraKeys, htype, hkeys⟩

theorem JavaScript.listsKeys_entry {i : Instrument} {keys : List String} (h : i.keys? = some keys) :
    ∃ e, JavaScript.entry i = .ok e ∧ Target.javascript.ListsKeys i keys e.declaration := by
  cases i with
  | metric m =>
    obtain ⟨hvariant, -⟩ := Instrument.exists_event h
    have hkeys : m.extraKeyNames? = some keys := h
    have hclass : className (Instrument.metric m).variant =
        .ok (.plain runtimeSpace "EventMetricType") := by
      rw [Instrument.variant, hvariant]
      rfl
    have hend : (",\n\x7d" : String) = "," ++ "\n\x7d" := rfl
    have hmark : ("\n\x7d, " : String) = "\n\x7d" ++ ", " := rfl
    refine ⟨_, by rw [entry, call, hclass]; rfl, Target.listsKeys_of_eq
      ((Instrument.metric m).identifier ++ ": new " ++
        QualifiedName.text (.plain runtimeSpace "EventMetricType") ++ "(\x7b\n" ++
        argumentLines (spellArguments literal (Instrument.metric m).arguments) ": " indent ++
        ",") ?_⟩
    simp only [hkeys, object, hend, hmark, Target.keyListMarks, Target.literal]
    simp [← String.toList_inj]
  | ping p =>
    obtain rfl : p.reasons.keys = keys := Option.some.inj h
    obtain ⟨arguments, hne, harguments⟩ := p.exists_arguments literal
    refine ⟨_, rfl, Target.listsKeys_of_eq
      ((Instrument.ping p).identifier ++ ": new " ++
        QualifiedName.text (.plain runtimeSpace "PingType") ++ "(\x7b\n" ++
        argumentLines arguments ": " indent ++ ",") ?_⟩
    simp only [Instrument.arguments, object, harguments, argumentLines_append arguments hne,
      Target.keyListMarks, Target.literal, indent]
    simp [← String.toList_inj]

theorem Metric.spellArguments_ne_nil (m : Metric) (literal : Literal → String) :
    spellArguments literal m.arguments ≠ [] := List.cons_ne_nil _ _

theorem Swift.listsKeys_entry (w : Swift) {i : Instrument} {keys : List String}
    (h : i.keys? = some keys) : (Target.swift w).ListsKeys i keys (w.entry i).declaration := by
  cases i with
  | metric m =>
    obtain ⟨-, -, extraKeys, htype, rfl⟩ := Instrument.exists_event h
    refine Target.listsKeys_of_eq ("static let " ++ (Instrument.metric m).identifier ++
      " = " ++ w.constructor (.metric m) ++ "(\n" ++
      argumentLines (spellArguments literal m.arguments) ": " indent ++ ",") ?_
    simp only [entry, call, htype, callWith, extraArguments,
      argumentLines_append _ (m.spellArguments_ne_nil literal), Target.keyListMarks,
      Target.literal, indent]
    simp [← String.toList_inj]
  | ping p =>
    obtain rfl : p.reasons.keys = keys := Option.some.inj h
    obtain ⟨arguments, hne, harguments⟩ := p.exists_arguments literal
    refine Target.listsKeys_of_eq ("static let " ++ (Instrument.ping p).identifier ++
      " = " ++ w.constructor (.ping p) ++ "(\n" ++ argumentLines arguments ": " indent ++ ",") ?_
    simp only [entry, call, callWith, List.append_nil, harguments,
      argumentLines_append arguments hne, Target.keyListMarks, Target.literal, indent]
    simp [← String.toList_inj]

theorem Kotlin.listsKeys_entry (k : Kotlin) {i : Instrument} {keys : List String}
    (h : i.keys? = some keys) : (Target.kotlin k).ListsKeys i keys (k.entry i).declaration := by
  cases i with
  | metric m =>
    obtain ⟨-, -, extraKeys, htype, rfl⟩ := Instrument.exists_event h
    have hlist : OneLine ("    allowedExtraKeys = " ++ literal (.list extraKeys.keys)) :=
      oneLine_append.mpr ⟨by decide, (Target.kotlin k).oneLine_list extraKeys.keys⟩
    -- The constructor call is indented a second time, and the list stands on one line of it.
    obtain ⟨front, hcall⟩ : ∃ front, k.metricCall m = front ++ "\n" ++
        ("    allowedExtraKeys = " ++ literal (.list extraKeys.keys) ++ "\n" ++ ")") := by
      refine ⟨(k.className m.variant).name ++ "(\n" ++
        argumentLines (spellArguments literal m.arguments) " = " indent ++ ",", ?_⟩
      simp only [metricCall, callWith, extraArguments, htype,
        argumentLines_append _ (m.spellArguments_ne_nil literal), indent]
      simp [← String.toList_inj]
    have hindented : indentAll indent (k.metricCall m) = indentAll indent (front ++ "\n") ++ "\n" ++
        (indent ++ ("    allowedExtraKeys = " ++ literal (.list extraKeys.keys)) ++ "\n" ++
          (indent ++ ")")) := by
      have hend : indentAll indent ")" = indent ++ ")" :=
        indentAll_oneLine indent (by decide) (by decide)
      rw [hcall, indentAll_append _ _ (by simp [← String.toList_inj]),
        indentAll_oneLine_append _ hlist (by decide), hend]
    refine Target.listsKeys_of_eq ("val " ++ (Instrument.metric m).identifier ++ ": " ++
      k.propertyType (.metric m) ++ " by lazy \x7b\n" ++ indentAll indent (front ++ "\n")) ?_
    simp only [entry, declaration, call, hindented, Target.keyListMarks, Target.literal]
    simp [← String.toList_inj, indent]
  | ping p =>
    obtain rfl : p.reasons.keys = keys := Option.some.inj h
    obtain ⟨arguments, hne, harguments⟩ := p.exists_arguments literal
    refine Target.listsKeys_of_eq ("val " ++ (Instrument.ping p).identifier ++ ": " ++
      k.propertyType (.ping p) ++ " = " ++ (k.className .ping).name ++ "(\n" ++
      argumentLines arguments " = " indent ++ ",") ?_
    simp only [entry, declaration, call, pingCall, callWith, List.append_nil, harguments,
      argumentLines_append arguments hne, Target.keyListMarks, Target.literal, indent]
    simp [← String.toList_inj]

/-! ### Enums and type arguments -/

structure Kotlin.PresentsKeys (k : Kotlin) (i : Instrument) (keys : List String) : Prop where
  /-- Without keys nothing stands before the declaration. -/
  unkeyed : keys = [] → (k.entry i).preamble = []
  /-- Otherwise one enum does, with the keys as they are; keys of one line are read back. -/
  keyed : keys ≠ [] → ∃ block, (k.entry i).preamble = [block] ∧
    block = "enum class " ++ enumName i ++ " \x7b\n" ++ joinWith ",\n" (keys.map ("    " ++ ·)) ++
      "\n\x7d" ∧
    ((∀ key ∈ keys, OneLine key) → readEnum? block = some (enumName i, keys))
  /-- The class is applied to the enum, or to the placeholder. -/
  argument : ∃ rest, (k.entry i).declaration = "val " ++ i.identifier ++ ": " ++
    (k.className i.variant).name ++ "<" ++ (if keys = [] then i.keylessType else enumName i) ++
      ">" ++ rest

structure Swift.PresentsKeys (w : Swift) (i : Instrument) (keys : List String) : Prop where
  /-- Without keys nothing stands before the declaration. -/
  unkeyed : keys = [] → (w.entry i).preamble = []
  /-- Otherwise one enum does, with the keys in camel case and their positions. -/
  keyed : keys ≠ [] → ∃ block, (w.entry i).preamble = [block] ∧
    readEnum? block = some (enumName i, keys.mapIdx fun n key => (camel key, n))
  /-- The class is applied to the enum, or to the placeholder. -/
  argument : ∃ rest, (w.entry i).declaration = "static let " ++ i.identifier ++ " = " ++
    (w.className i.variant).name ++ "<" ++ (if keys = [] then i.keylessType else enumName i) ++
      ">" ++ rest

section

variable {i : Instrument} {keys : List String}

theorem Instrument.enumKeys?_eq (h : i.keys? = some keys) :
    i.enumKeys? = if keys = [] then none else some keys := by
  rw [enumKeys?, h]
  cases keys <;> rfl

theorem Instrument.appliedClass_eq (h : i.keys? = some keys) (cls enumName : String) :
    i.appliedClass cls enumName =
      cls ++ "<" ++ (if keys = [] then i.keylessType else enumName) ++ ">" := by
  rw [appliedClass, h]
  cases keys <;> rfl

/-- The class of an instrument with keys is not labeled. -/
theorem simple_runtimeClass (h : i.keys? = some keys) (space pingWord : String) :
    (runtimeClass space pingWord i.variant).simple =
      (runtimeClass space pingWord i.variant).name := by
  cases i with
  | metric m =>
    obtain ⟨hvariant, -⟩ := Instrument.exists_event h
    rw [Instrument.variant, hvariant]
    rfl
  | ping p => rfl

theorem Kotlin.presentsKeys (k : Kotlin) (h : i.keys? = some keys) : k.PresentsKeys i keys where
  unkeyed hempty := by
    rw [entry, Instrument.enumKeys?_eq h, if_pos hempty]
    rfl
  keyed hne := by
    have hname : OneLine (enumName i) := oneLine_of_isWordChar (isWordChar_enumName i)
    refine ⟨enumClass (enumName i) keys, ?_, rfl, readEnum?_enumClass hname hne⟩
    rw [entry, Instrument.enumKeys?_eq h, if_neg hne]
    rfl
  argument := by
    simp only [entry, declaration, propertyType, Instrument.appliedClass_eq h, className,
      simple_runtimeClass h, String.append_assoc]
    exact ⟨_, rfl⟩

theorem Swift.presentsKeys (w : Swift) (h : i.keys? = some keys) : w.PresentsKeys i keys where
  unkeyed hempty := by
    rw [entry, Instrument.enumKeys?_eq h, if_pos hempty]
    rfl
  keyed hne := by
    have hheading : OneLine (rawType i) ∧ OneLine (conformance i) := by
      cases i <;> rw [rawType, conformance] <;> decide
    refine ⟨indexedEnum (enumName i) (rawType i) (conformance i) keys, ?_,
      readEnum?_indexedEnum (isWordChar_enumName i) hheading.1 hheading.2 keys⟩
    rw [entry, Instrument.enumKeys?_eq h, if_neg hne]
    rfl
  argument := by
    have hconstructor : w.constructor i = (w.className i.variant).name ++ "<" ++
        (if keys = [] then i.keylessType else enumName i) ++ ">" := by
      rw [constructor, Instrument.appliedClass_eq h, className, simple_runtimeClass h]
    have hcall : ∃ rest, w.call i = w.constructor i ++ rest := by
      cases i with
      | metric m =>
        obtain ⟨-, -, extraKeys, htype, -⟩ := Instrument.exists_event h
        simp only [call, htype, callWith, String.empty_append, String.append_assoc]
        exact ⟨_, rfl⟩
      | ping p =>
        simp only [call, callWith, String.append_assoc]
        exact ⟨_, rfl⟩
    obtain ⟨rest, hrest⟩ := hcall
    refine ⟨rest, ?_⟩
    simp only [entry, hrest, hconstructor, String.append_assoc]

end

/-! ### Documents -/

def declaredExtraKeys (t : String × String × Node) : List String :=
  (Definition.declared t.2.2.entries .extraKeys).map (·.1)

def declaredReasons (e : String × Node) : List String :=
  (Definition.declared e.2.entries .reasons).map (·.1)

section

variable {p : Policy} {documents : List SourceDocument} {model : Model}

theorem forall₂_declaredExtraKeys (h : buildModel p documents = .ok model) :
    List.Forall₂ (fun m t => ∀ extraKeys, m.type = .event extraKeys →
      extraKeys.keys = declaredExtraKeys t) model.metrics (metricDefinitionsOf documents) := by
  obtain ⟨ha, rfl⟩ := buildModel_eq_ok_iff.mp h
  have hf := (acceptable_findingsOf_iff.mp ha).1
  refine (forall₂_metricReading hf).imp fun m ⟨key, name, node⟩ ⟨ht, hm⟩ extraKeys htype => ?_
  obtain ⟨d, v, rfl, hv, hgives⟩ := givesMetric_of_readMetric ((flawless_iff.mp hf).2.2.1 _ ht) hm
  rw [declaredExtraKeys, ← List.forall₂_eq_eq_eq, OrderedMap.keys, List.forall₂_map_left_iff,
    List.forall₂_map_right_iff]
  exact (hgives.keepsLast hv key extraKeys htype).imp fun _ _ hkept => hkept.1

theorem forall₂_declaredReasons (h : buildModel p documents = .ok model) :
    List.Forall₂ (fun q e => q.reasons.keys = declaredReasons e)
      model.pings (pingDefinitionsOf documents) := by
  obtain ⟨ha, rfl⟩ := buildModel_eq_ok_iff.mp h
  have hf := (acceptable_findingsOf_iff.mp ha).1
  refine (forall₂_pingReading hf).imp fun q ⟨name, node⟩ ⟨he, hq⟩ => ?_
  obtain ⟨d, rfl, hgives⟩ := givesPing_of_readPing ((flawless_iff.mp hf).2.2.2 _ he) hq
  rw [declaredReasons, ← List.forall₂_eq_eq_eq, OrderedMap.keys, List.forall₂_map_left_iff,
    List.forall₂_map_right_iff]
  exact hgives.keepsAll.imp fun _ _ hkept => hkept.1

end

/-- Every target writes the keys of an event or a ping in their order, in the enum and in the list
alike. In a model that was built the keys are those that the documents declare, in that order, and
each of them fits one line. -/
theorem keys_keep_order :
    (∀ (i : Instrument) (keys : List String), i.keys? = some keys →
      (∀ k : Kotlin, k.PresentsKeys i keys) ∧ (∀ w : Swift, w.PresentsKeys i keys) ∧
      ∀ t : Target, ∃ e, t.entry i = .ok e ∧ t.ListsKeys i keys e.declaration) ∧
    ∀ (p : Policy) (documents : List SourceDocument) (model : Model),
      buildModel p documents = .ok model →
        List.Forall₂ (fun m t => ∀ extraKeys, m.type = .event extraKeys →
          extraKeys.keys = declaredExtraKeys t) model.metrics (metricDefinitionsOf documents) ∧
        List.Forall₂ (fun q e => q.reasons.keys = declaredReasons e)
          model.pings (pingDefinitionsOf documents) ∧
        ∀ i ∈ model.instruments, ∀ keys, i.keys? = some keys → ∀ key ∈ keys, OneLine key := by
  refine ⟨fun i keys hkeys => ⟨fun k => k.presentsKeys hkeys, fun w => w.presentsKeys hkeys,
    fun t => ?_⟩, fun p documents model hmodel =>
    ⟨forall₂_declaredExtraKeys hmodel, forall₂_declaredReasons hmodel, ?_⟩⟩
  · cases t with
    | javascript => exact JavaScript.listsKeys_entry hkeys
    | kotlin k => exact ⟨_, rfl, k.listsKeys_entry hkeys⟩
    | swift w => exact ⟨_, rfl, w.listsKeys_entry hkeys⟩
  · obtain ⟨ha, rfl⟩ := buildModel_eq_ok_iff.mp hmodel
    have hplain := plainNames_instrumentsOf (acceptable_findingsOf_iff.mp ha).1
    exact fun i hi keys hkeys key hkey => oneLine_of_plain ((hplain i hi).keys hkeys key hkey)

/-- An event with two extra keys and a ping with two reasons, none of them in alphabetical order,
and a ping without reasons. -/
def zoomDocuments : List SourceDocument :=
  [.ofEntries "m.yaml" .metrics [("view", .mapping [
      ("zoomed", .mapping [("type", .string "event"), ("description", .string "Zoomed."),
        ("bugs", .list [.integer 1]), ("notification_emails", .list [.string "a@example.com"]),
        ("expires", .string "never"),
        ("extra_keys", .mapping [("to_level", .mapping [("description", .string "The level.")]),
          ("by", .mapping [("description", .string "The factor.")])])])])],
    .ofEntries "p.yaml" .pings [
      ("crash", .mapping [("description", .string "Crashes."), ("include_client_id", .bool true),
        ("bugs", .list [.integer 1]), ("notification_emails", .list [.string "a@example.com"]),
        ("reasons", .mapping [("hang", .string "It hung."), ("fatal", .string "It ended.")])]),
      ("use", samplePing "Usage.")]]

theorem keys_keep_order_zoom :
    ∃ model, buildModel ⟨{}, none⟩ zoomDocuments = .ok model ∧
      model.instruments.map (·.keys?) = [some ["to_level", "by"], some ["hang", "fatal"], some []] ∧
      (metricDefinitionsOf zoomDocuments).map declaredExtraKeys = [["to_level", "by"]] ∧
      (pingDefinitionsOf zoomDocuments).map declaredReasons = [["hang", "fatal"], []] ∧
      List.Forall₂ (fun q e => q.reasons.keys = declaredReasons e)
        model.pings (pingDefinitionsOf zoomDocuments) ∧
      ∀ i ∈ model.instruments, ∃ keys, i.keys? = some keys ∧ (∀ key ∈ keys, OneLine key) ∧
        (∀ k : Kotlin, k.PresentsKeys i keys) ∧ (∀ w : Swift, w.PresentsKeys i keys) ∧
        ∀ t : Target, ∃ e, t.entry i = .ok e ∧ t.ListsKeys i keys e.declaration := by
  have hkeys : (buildModel ⟨{}, none⟩ zoomDocuments).toOption.map
      (fun model => model.instruments.map (·.keys?)) =
      some [some ["to_level", "by"], some ["hang", "fatal"], some []] := by
    set_option maxRecDepth 4000 in decide
  cases hmodel : buildModel ⟨{}, none⟩ zoomDocuments with
  | error errors => simp [hmodel, Except.toOption] at hkeys
  | ok model =>
    simp only [hmodel, Except.toOption, Option.map_some, Option.some.injEq] at hkeys
    obtain ⟨hentries, hdocuments⟩ := keys_keep_order
    obtain ⟨-, hreasons, hlines⟩ := hdocuments _ _ _ hmodel
    refine ⟨model, rfl, hkeys, by decide, by decide, hreasons, fun i hi => ?_⟩
    obtain ⟨keys, hsome⟩ : ∃ keys, i.keys? = some keys := by
      have hmem : i.keys? ∈ model.instruments.map (·.keys?) := List.mem_map_of_mem hi
      rw [hkeys] at hmem
      rcases List.mem_cons.mp hmem with h | hmem
      · exact ⟨_, h⟩
      · rcases List.mem_pair.mp hmem with h | h <;> exact ⟨_, h⟩
    exact ⟨keys, hsome, hlines i hi keys hsome, hentries i keys hsome⟩

end TelemetryBindings
