import TelemetryBindings.Proofs.Agreement
import TelemetryBindings.Proofs.FileNames
import TelemetryBindings.Proofs.Respelling

/-!
# The names that generated code declares

A generated file declares its container, a property for every instrument and, where an instrument
has keys, an enum with a constant for each of them. Names are validated in their declared spelling,
where a digit can stand behind an underscore; most are written in camel case, where that underscore
is lost. All declared names are identifiers exactly if every name that is respelled leads with a
letter.
-/
namespace TelemetryBindings

open Identifier

/-- A letter or an underscore, then letters, digits and underscores. -/
def Identifier.wellFormed (name : String) : Bool := Grammar.code.accepts name.toList

theorem Identifier.wellFormed_append {name ending : String} (h : wellFormed name)
    (hending : ∀ c ∈ ending.toList, c.isAlphanum) : wellFormed (name ++ ending) := by
  rw [wellFormed] at h ⊢
  rw [String.toList_append]
  cases hname : name.toList with
  | nil => simp [hname, Grammar.accepts] at h
  | cons c cs =>
    rw [hname] at h
    obtain ⟨hbegins, hcontinues⟩ := Bool.and_eq_true_iff.mp h
    have hrest : ending.toList.all Grammar.code.continues := by
      rw [List.all_eq_true]
      intro d hd
      simp [Grammar.code, hending d hd]
    rw [List.cons_append, Grammar.accepts, List.all_append, hbegins, hcontinues, hrest]
    rfl

def Instrument.category? : Instrument → Option String
  | .metric m => if m.category = "" then none else some m.category
  | .ping _ => none

namespace Target

def enumNames : Target → Instrument → List String → List String
  | .javascript, _, _ => []
  | .kotlin _, i, keys => Kotlin.enumName i :: keys
  | .swift _, i, keys => Swift.enumName i :: keys.map Text.camel

def entryNames (t : Target) (i : Instrument) : List String :=
  i.identifier :: i.enumKeys?.toList.flatMap (t.enumNames i)

/-- The names that the file of a unit declares. -/
def declared (t : Target) (u : OutputUnit) : List String :=
  t.unitName u.id :: u.instruments.flatMap t.entryNames

/-- The keys of which the constants of an enum are spelled in camel case. -/
def respelledKeys : Target → List String → List String
  | .swift _, keys => keys
  | _, _ => []

/-- The names of a definition that generated code spells in camel case. -/
def respelled (t : Target) (i : Instrument) : List String :=
  i.category?.toList ++ i.name :: i.enumKeys?.toList.flatMap t.respelledKeys

theorem unitName_eq (t : Target) (id : String) : t.unitName id = id ∨ t.unitName id = Text.pascal id := by
  cases t with
  | javascript => exact Or.inl rfl
  | _ => exact Or.inr rfl

/-- What holds of all declared names holds of the unit name of every instrument and of the names in
its entry. -/
theorem forall_declared_iff {t : Target} {is : List Instrument} {P : String → Prop} :
    (∀ u ∈ partition is, ∀ name ∈ t.declared u, P name) ↔
      ∀ i ∈ is, P (t.unitName i.unitId) ∧ ∀ name ∈ t.entryNames i, P name := by
  simp only [declared, List.forall_mem_cons, List.forall_mem_flatMap]
  constructor
  · intro h i hi
    obtain ⟨hunit, hentries⟩ := h _ (mem_partition.mpr ⟨i, hi, rfl⟩)
    exact ⟨hunit, hentries i (List.mem_filter.mpr ⟨hi, beq_self_eq_true i.unitId⟩)⟩
  · intro h u hu
    obtain ⟨i, hi, rfl⟩ := mem_partition.mp hu
    exact ⟨(h i hi).1, fun j hj => (h j (List.mem_filter.mp hj).1).2⟩

theorem forall_entryNames_iff {t : Target} {i : Instrument} {P : String → Prop} :
    (∀ name ∈ t.entryNames i, P name) ↔
      P i.identifier ∧ ∀ keys, i.enumKeys? = some keys → ∀ name ∈ t.enumNames i keys, P name := by
  rw [entryNames, List.forall_mem_cons]
  cases i.enumKeys? <;> simp

end Target

theorem Instrument.keys?_metric_eq_some {m : Metric} {keys : List String}
    (h : (Instrument.metric m).keys? = some keys) :
    ∃ extraKeys, m.type = .event extraKeys ∧ extraKeys.keys = keys := by
  rw [keys?, Metric.extraKeyNames?] at h
  split at h
  · next extraKeys htype => exact ⟨extraKeys, htype, Option.some.inj h⟩
  · cases h

/-! ### Admitted names are written in ASCII -/

theorem Identifier.Plain.ascii {name : String} (h : Plain name) : ∀ c ∈ name.toList, c.toNat < 0x80 :=
  fun c hc => (toNat_of_isNameChar (h c hc)).2

namespace Instrument.Admitted

variable {p : Policy} {i : Instrument}

theorem plain_name (h : i.Admitted p) : Plain i.name := by
  cases i with
  | metric m => exact plain_of_isIdentifier (Metric.Admitted.name h).grammar
  | ping q => exact plain_of_isPingName (Ping.Admitted.grammar h)

theorem keys (h : i.Admitted p) {keys : List String} (hkeys : i.enumKeys? = some keys) :
    ∃ maxLength, ∀ key ∈ keys, p.AdmitsName maxLength key := by
  have hmem : i.keys? = some keys := by
    rw [enumKeys?] at hkeys
    split at hkeys
    · next hk => rw [hk, hkeys]
    · simp at hkeys
  cases i with
  | metric m =>
    obtain ⟨extraKeys, htype, rfl⟩ := keys?_metric_eq_some hmem
    exact ⟨_, Metric.Admitted.keys h extraKeys htype⟩
  | ping q =>
    obtain rfl : q.reasons.keys = keys := Option.some.inj hmem
    exact ⟨_, Ping.Admitted.reasons h⟩

theorem category (h : i.Admitted p) {category : String} (hcategory : i.category? = some category) :
    p.categoryProblem? category = none ∧ i.unitId = Text.camel category := by
  cases i with
  | ping q => simp [category?] at hcategory
  | metric m =>
    by_cases hempty : m.category = ""
    · simp [category?, hempty] at hcategory
    · obtain ⟨key, hproblem, hkey⟩ := Metric.Admitted.category h
      have hm : m.category = category := by simpa [category?, hempty] using hcategory
      have hsame : categoryOfKey key = key := by
        rw [categoryOfKey, if_neg]
        rintro rfl
        exact hempty hkey
      rw [← hm, hkey, hsame]
      refine ⟨hproblem, ?_⟩
      rw [unitId, hkey, hsame, TelemetryBindings.unitId, if_neg]
      rintro rfl
      exact hempty (hkey.trans hsame)

theorem unitId_of_no_category (h : i.category? = none) :
    i.unitId = internalUnitId ∨ i.unitId = pingsUnitId := by
  cases i with
  | ping q => exact Or.inr rfl
  | metric m =>
    by_cases hempty : m.category = ""
    · exact Or.inl (by rw [unitId, TelemetryBindings.unitId, if_pos hempty])
    · simp [category?, hempty] at h

theorem plain_category (h : i.Admitted p) {category : String}
    (hcategory : i.category? = some category) : Plain category :=
  plain_of_isCategory (isCategory_of_categoryProblem? (h.category hcategory).1)

/-! ### Which names are identifiers -/

theorem wellFormed_unitName_iff (h : i.Admitted p) (t : Target) :
    wellFormed (t.unitName i.unitId) ↔ ∀ category ∈ i.category?, Text.leadsWithLetter category := by
  cases hcategory : i.category? with
  | none =>
    refine iff_of_true ?_ (by simp)
    rcases t.unitName_eq i.unitId with hname | hname <;> rw [hname] <;>
      rcases unitId_of_no_category hcategory with hunit | hunit <;> rw [hunit] <;> decide
  | some category =>
    have hascii := (h.plain_category hcategory).ascii
    have hcamel := Text.ascii_of_isAlphanum (Text.isAlphanum_camel hascii)
    rw [(h.category hcategory).2]
    simp only [Option.mem_def, Option.some.injEq, forall_eq']
    cases t with
    | javascript => exact Text.accepts_camel_iff hascii
    | _ =>
      rw [← Text.leadsWithLetter_camel hascii]
      exact Text.accepts_pascal_iff hcamel

theorem isAlphanum_enumSuffix (i : Instrument) : ∀ c ∈ i.enumSuffix.toList, c.isAlphanum := by
  cases i with
  | metric m => simp [enumSuffix]
  | ping q => simp [enumSuffix]

/-- The names of an enum are identifiers if the name of its instrument and, where they are
respelled, its keys lead with letters. -/
theorem wellFormed_enumNames_iff (h : i.Admitted p) (hname : Text.leadsWithLetter i.name)
    {keys : List String} (hkeys : i.enumKeys? = some keys) (t : Target) :
    (∀ name ∈ t.enumNames i keys, wellFormed name) ↔
      ∀ key ∈ t.respelledKeys keys, Text.leadsWithLetter key := by
  have hascii := h.plain_name.ascii
  obtain ⟨maxLength, hadmits⟩ := h.keys hkeys
  cases t with
  | javascript => exact iff_of_true (by simp [Target.enumNames]) (by simp [Target.respelledKeys])
  | kotlin k =>
    refine iff_of_true (List.forall_mem_cons.mpr ⟨?_, ?_⟩) (by simp [Target.respelledKeys])
    · rw [Kotlin.enumName]
      exact wellFormed_append ((Text.accepts_camel_iff hascii).mpr hname) (isAlphanum_enumSuffix i)
    · intro key hkey
      exact (Bool.and_eq_true_iff.mp (hadmits key hkey).grammar).2
  | swift w =>
    have henum : wellFormed (Swift.enumName i) := by
      rw [Swift.enumName]
      exact wellFormed_append ((Text.accepts_pascal_iff hascii).mpr hname) (isAlphanum_enumSuffix i)
    rw [Target.enumNames, List.forall_mem_cons, List.forall_mem_map, and_iff_right henum]
    refine forall₂_congr fun key hkey => ?_
    exact Text.accepts_camel_iff (plain_of_isIdentifier (hadmits key hkey).grammar).ascii

/-- All names declared for an instrument are identifiers exactly if those that are respelled lead
with letters. -/
theorem wellFormed_names_iff (h : i.Admitted p) (t : Target) :
    (wellFormed (t.unitName i.unitId) ∧ ∀ name ∈ t.entryNames i, wellFormed name) ↔
      ∀ name ∈ t.respelled i, Text.leadsWithLetter name := by
  have hidentifier : wellFormed i.identifier ↔ Text.leadsWithLetter i.name :=
    Text.accepts_camel_iff h.plain_name.ascii
  rw [h.wellFormed_unitName_iff, Target.forall_entryNames_iff, hidentifier, Target.respelled,
    List.forall_mem_append, List.forall_mem_cons, List.forall_mem_flatMap]
  simp only [Option.mem_toList]
  refine and_congr_right fun _ => and_congr_right fun hname => ?_
  exact forall₂_congr fun keys hkeys => h.wellFormed_enumNames_iff hname hkeys t

end Instrument.Admitted

/-- What is compiled declares identifiers only, exactly if every name that is respelled leads with a
letter. Keys that are declared as they stand are always identifiers. -/
theorem wellFormed_declared_iff {registry : Registry} {documents : List SourceDocument}
    {targetName : String} {namespaces : Namespaces} {options : Options} {files : List Document}
    (h : compile registry documents targetName namespaces options = .ok files) :
    ∃ target model units, registry.create targetName namespaces = .ok target ∧
      unitsOf ⟨options, some target⟩ documents = .ok (model, units) ∧
      units.mapM target.renderUnit = .ok files ∧
      ((∀ u ∈ units, ∀ name ∈ target.declared u, wellFormed name) ↔
        ∀ i ∈ model.instruments, ∀ name ∈ target.respelled i, Text.leadsWithLetter name) ∧
      ∀ i ∈ model.instruments, ∀ keys, i.enumKeys? = some keys → ∀ key ∈ keys, wellFormed key := by
  obtain ⟨target, model, units, htarget, hunits, hfiles⟩ := exists_units_of_compile h
  have hadmitted := admitted_of_unitsOf hunits
  refine ⟨target, model, units, htarget, hunits, hfiles, ?_, ?_⟩
  · obtain ⟨-, rfl, -, rfl⟩ := unitsOf_eq_ok_iff.mp hunits
    rw [instrumentsOf, Target.forall_declared_iff]
    exact forall₂_congr fun i hi => (hadmitted i hi).wellFormed_names_iff target
  · intro i hi keys hkeys key hkey
    obtain ⟨maxLength, hadmits⟩ := (hadmitted i hi).keys hkeys
    exact (Bool.and_eq_true_iff.mp (hadmits key hkey).grammar).2

/-- An event with extra keys and a ping with a reason, both under names with leading underscores. -/
def keyedDocuments : List SourceDocument :=
  [.ofEntries "m.yaml" .metrics [("nav", .mapping [("_clicked", .mapping
      [("type", .string "event"), ("description", .string "Clicks."), ("bugs", .list [.integer 1]),
        ("notification_emails", .list [.string "a@example.com"]), ("expires", .string "never"),
        ("extra_keys", .mapping [("button_id", .mapping [("description", .string "Which.")]),
          ("__label", .mapping [("description", .string "Its label.")])])])])],
    .ofEntries "p.yaml" .pings [("_crash-report", .mapping
      [("description", .string "Crashes."), ("include_client_id", .bool true),
        ("bugs", .list [.integer 1]), ("notification_emails", .list [.string "a@example.com"]),
        ("reasons", .mapping [("out_of_memory", .string "No memory was left.")])])]]

theorem wellFormed_declared_keyed :
    ∃ files target model units, compile .builtin keyedDocuments "swift" {} {} = .ok files ∧
      Registry.builtin.create "swift" {} = .ok target ∧
      unitsOf ⟨{}, some target⟩ keyedDocuments = .ok (model, units) ∧
      ∀ u ∈ units, ∀ name ∈ target.declared u, wellFormed name := by
  let swift : Target := .swift (.ofNamespaces {})
  have hcreate : Registry.builtin.create "swift" {} = .ok swift :=
    Registry.create_builtin_eq_ok_iff.mpr (Or.inr (Or.inr ⟨rfl, rfl⟩))
  have hleads : (unitsOf ⟨{}, some swift⟩ keyedDocuments).toOption.any (fun result =>
      result.1.instruments.all fun i => (swift.respelled i).all Text.leadsWithLetter) = true := by
    set_option maxRecDepth 4000 in decide
  cases hunits : unitsOf ⟨{}, some swift⟩ keyedDocuments with
  | error e => simp [hunits, Except.toOption] at hleads
  | ok result =>
    obtain ⟨files, hfiles⟩ := exists_compile_of_unitsOf hcreate hunits
    obtain ⟨target, model, units, htarget, hunits', -, hiff, -⟩ := wellFormed_declared_iff hfiles
    refine ⟨files, target, model, units, hfiles, htarget, hunits', hiff.mpr ?_⟩
    obtain rfl : target = swift := Except.ok.inj (htarget.symm.trans hcreate)
    rw [hunits'] at hleads
    intro i hi name hname
    exact List.all_eq_true.mp (List.all_eq_true.mp hleads i hi) name hname

/-- The name of its metric is an identifier only as it is declared. -/
def underscoredDocuments : List SourceDocument :=
  [.ofEntries "m.yaml" .metrics [("auth", .mapping [("_2fa", sampleCounter "Second factors.")])]]

/-- What is compiled can declare names that are no identifiers. -/
theorem declared_not_wellFormed :
    ¬ ∀ (documents : List SourceDocument) (targetName : String) (namespaces : Namespaces)
      (options : Options) (files : List Document) (target : Target) (model : Model)
      (units : List OutputUnit),
      compile .builtin documents targetName namespaces options = .ok files →
      Registry.builtin.create targetName namespaces = .ok target →
      unitsOf ⟨options, some target⟩ documents = .ok (model, units) →
      ∀ u ∈ units, ∀ name ∈ target.declared u, wellFormed name := by
  intro h
  have htarget : Registry.builtin.create "javascript" {} = .ok .javascript :=
    Registry.create_builtin_eq_ok_iff.mpr (Or.inl ⟨rfl, rfl⟩)
  have hnames : (unitsOf ⟨{}, some .javascript⟩ underscoredDocuments).toOption.map
      (fun result => result.2.flatMap Target.javascript.declared) = some ["auth", "2fa"] := by
    set_option maxRecDepth 4000 in decide
  cases hunits : unitsOf ⟨{}, some .javascript⟩ underscoredDocuments with
  | error e => simp [hunits, Except.toOption] at hnames
  | ok result =>
    obtain ⟨files, hfiles⟩ := exists_compile_of_unitsOf htarget hunits
    rw [hunits] at hnames
    have hdeclared : result.2.flatMap Target.javascript.declared = ["auth", "2fa"] :=
      Option.some.inj hnames
    have hmem : "2fa" ∈ result.2.flatMap Target.javascript.declared := by simp [hdeclared]
    obtain ⟨u, hu, hname⟩ := List.mem_flatMap.mp hmem
    have hwell := h _ _ _ _ _ _ _ _ hfiles htarget hunits u hu "2fa" hname
    exact absurd hwell (by decide)

end TelemetryBindings
