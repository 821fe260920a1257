import TelemetryBindings.Proofs.CamelCase
import TelemetryBindings.Proofs.Compiling
import TelemetryBindings.Proofs.PlainNames

/-!
# The names of generated files

Units are told apart by their identifiers, which are categories in camel case. Some targets name the
file and the container of a unit by the capitalised identifier instead, and two identifiers can
become one there. Files have distinct names exactly when that does not happen; it never does for
categories whose words after the first begin with two letters.
-/
namespace TelemetryBindings

def unitIdsOf (documents : List SourceDocument) : List String :=
  (metricDefinitionsOf documents).map (fun t => unitId (categoryOfKey t.1)) ++
    (pingDefinitionsOf documents).map fun _ => pingsUnitId

theorem unitIds_instrumentsOf {p : Policy} {documents : List SourceDocument}
    (h : ∀ d ∈ documents, d.Flawless p) :
    (instrumentsOf p documents).map (·.unitId) = unitIdsOf documents := by
  have hmetrics : (modelOf (findingsOf p documents)).metrics.map (fun m => unitId m.category) =
      (metricDefinitionsOf documents).map fun t => unitId (categoryOfKey t.1) := by
    have := congrArg (List.map fun key => unitId key.1) (metrics_findingsOf h)
    rwa [List.map_map, List.map_map] at this
  have hpings : (modelOf (findingsOf p documents)).pings.map (fun _ => pingsUnitId) =
      (pingDefinitionsOf documents).map fun _ => pingsUnitId := by
    have := congrArg (List.map fun _ => pingsUnitId) (pings_findingsOf h)
    rwa [List.map_map, List.map_map] at this
  rw [instrumentsOf, Model.instruments, List.map_append, List.map_map, List.map_map, unitIdsOf,
    ← hmetrics, ← hpings]
  rfl

namespace Target

/-- What a target names the file and the container of a unit by. -/
def unitName : Target → String → String
  | .javascript, id => id
  | _, id => Text.pascal id

def extension : Target → String
  | .javascript => ".js"
  | .kotlin _ => ".kt"
  | .swift _ => ".swift"

theorem fileName_eq (t : Target) (u : OutputUnit) :
    t.fileName u = t.unitName u.id ++ t.extension := by
  cases t <;> rfl

end Target

/-- Compiling gives one file for every unit identifier in use, named after it. -/
theorem fileNames_compile {registry : Registry} {documents : List SourceDocument}
    {targetName : String} {namespaces : Namespaces} {options : Options} {files : List Document}
    (h : compile registry documents targetName namespaces options = .ok files) :
    ∃ target, registry.create targetName namespaces = .ok target ∧
      (∀ d ∈ documents, d.Flawless ⟨options, some target⟩) ∧
      files.map (·.fileName) = (Text.sortedSet (unitIdsOf documents)).map fun id =>
        target.unitName id ++ target.extension := by
  obtain ⟨target, htarget, ha, -, hfiles⟩ := compile_eq_ok_iff.mp h
  have hflawless := (acceptable_findingsOf_iff.mp ha).1
  refine ⟨target, htarget, hflawless, ?_⟩
  rw [Target.fileNames_eq hfiles, partition, List.map_map, unitIds_instrumentsOf hflawless]
  exact List.map_congr_left fun id _ => target.fileName_eq _

/-- Whatever categories are called, their units have plain names. -/
theorem plain_unitIdsOf {p : Policy} {documents : List SourceDocument}
    (h : ∀ d ∈ documents, d.Flawless p) : ∀ id ∈ unitIdsOf documents, Identifier.Plain id := by
  rw [unitIdsOf, List.forall_mem_append, List.forall_mem_map, List.forall_mem_map]
  exact ⟨fun t ht => plain_unitId (plain_categoryOfKey (categoryProblem?_of_mem h ht)),
    fun _ _ => by decide⟩

theorem Target.plain_unitName (t : Target) {id : String} (h : Identifier.Plain id) :
    Identifier.Plain (t.unitName id) := by
  cases t with
  | javascript => exact h
  | kotlin _ => exact Text.plain_pascal h
  | swift _ => exact Text.plain_pascal h

theorem Target.plain_extension (t : Target) : Identifier.Plain t.extension := by
  cases t with
  | javascript => exact (by decide : Identifier.Plain ".js")
  | kotlin _ => exact (by decide : Identifier.Plain ".kt")
  | swift _ => exact (by decide : Identifier.Plain ".swift")

/-- A file is named after its unit, in characters of names, with the extension of its target. -/
theorem fileName_of_compile {registry : Registry} {documents : List SourceDocument}
    {targetName : String} {namespaces : Namespaces} {options : Options} {files : List Document}
    (h : compile registry documents targetName namespaces options = .ok files) :
    ∀ file ∈ files, ∃ stem, Identifier.Plain stem ∧
      ∃ target : Target, file.fileName = stem ++ target.extension := by
  obtain ⟨target, -, hflawless, hnames⟩ := fileNames_compile h
  intro file hfile
  have hname : file.fileName ∈ files.map (·.fileName) := List.mem_map_of_mem hfile
  rw [hnames] at hname
  obtain ⟨id, hid, hname⟩ := List.mem_map.mp hname
  have hplain := plain_unitIdsOf hflawless id (Text.mem_sortedSet.mp hid)
  exact ⟨_, target.plain_unitName hplain, target, hname.symm⟩

/-- An accepted category of well separated words gives an identifier whose capitals stand apart. -/
theorem humped_unitId {p : Policy} {key : String} (h : p.categoryProblem? key = none)
    (hsep : Text.wellSeparated key) : Text.humped (unitId (categoryOfKey key)) := by
  by_cases hinternal : key = "glean.internal.metrics"
  · rw [categoryOfKey, if_pos hinternal, unitId, if_pos rfl]
    decide
  · have hne : key ≠ "" := by
      rintro rfl
      exact absurd hsep (by decide)
    have hcategory := isCategory_of_categoryProblem? h
    rw [categoryOfKey, if_neg hinternal, unitId, if_neg hne]
    exact Text.humped_camel (fun c hc => (Identifier.toNat_of_isNameChar
      (Identifier.plain_of_isCategory hcategory c hc)).2) hsep

/-- Files have distinct names exactly if the target keeps unit identifiers as they are or no two of
them become one when they are capitalised. Categories of well separated words are always safe. -/
theorem nodup_fileNames_iff {documents : List SourceDocument} {targetName : String}
    {namespaces : Namespaces} {options : Options} {files : List Document}
    (h : compile .builtin documents targetName namespaces options = .ok files) :
    ((files.map (·.fileName)).Nodup ↔
      targetName = "javascript" ∨ Set.InjOn Text.pascal {id | id ∈ unitIdsOf documents}) ∧
    ((∀ t ∈ metricDefinitionsOf documents, Text.wellSeparated t.1) →
      (files.map (·.fileName)).Nodup) := by
  obtain ⟨target, htarget, hflawless, hnames⟩ := fileNames_compile h
  have hiff : (files.map (·.fileName)).Nodup ↔
      Set.InjOn target.unitName {id | id ∈ unitIdsOf documents} := by
    rw [hnames, List.nodup_map_iff_inj_on (Text.sortedLT_sortedSet _).nodup]
    simp only [Text.mem_sortedSet, String.append_left_inj]
    rfl
  have hpascal : targetName ≠ "javascript" → target.unitName = Text.pascal := by
    intro hne
    obtain ⟨hjs, -⟩ | ⟨-, rfl⟩ | ⟨-, rfl⟩ := Registry.create_builtin_eq_ok_iff.mp htarget
    · exact absurd hjs hne
    · rfl
    · rfl
  have hexact : (files.map (·.fileName)).Nodup ↔
      targetName = "javascript" ∨ Set.InjOn Text.pascal {id | id ∈ unitIdsOf documents} := by
    by_cases hjs : targetName = "javascript"
    · subst hjs
      obtain ⟨-, rfl⟩ | ⟨hkt, -⟩ | ⟨hsw, -⟩ := Registry.create_builtin_eq_ok_iff.mp htarget
      · exact iff_of_true (hiff.mpr fun a _ b _ hab => hab) (Or.inl rfl)
      · exact absurd hkt (by decide)
      · exact absurd hsw (by decide)
    · rw [hiff, hpascal hjs, or_iff_right hjs]
  refine ⟨hexact, fun hsep => hexact.mpr (Or.inr ?_)⟩
  have hhumped : ∀ id ∈ unitIdsOf documents, Text.humped id := by
    rw [unitIdsOf, List.forall_mem_append, List.forall_mem_map, List.forall_mem_map]
    refine ⟨fun t ht => ?_, fun _ _ => by decide⟩
    exact humped_unitId (categoryProblem?_of_mem hflawless ht) (hsep t ht)
  exact fun a ha b hb hab => Text.pascal_injOn_humped (hhumped a ha) (hhumped b hb) hab

def separateDocuments : List SourceDocument :=
  [.ofEntries "m.yaml" .metrics [("nav.bar", .mapping [("clicks", sampleCounter "Clicks.")]),
      ("tabs", .mapping [("opened", sampleCounter "Opened.")])],
    .ofEntries "p.yaml" .pings [("crash", samplePing "Crashes.")]]

theorem nodup_fileNames_separate :
    ∃ files, compile .builtin separateDocuments "swift" {} {} = .ok files ∧
      (files.map (·.fileName)).Nodup ∧
      Set.InjOn Text.pascal {id | id ∈ unitIdsOf separateDocuments} := by
  have hok : (compile .builtin separateDocuments "swift" {} {}).isOk = true := by decide +kernel
  cases h : compile .builtin separateDocuments "swift" {} {} with
  | error e => simp [h, Except.isOk, Except.toBool] at hok
  | ok files =>
    obtain ⟨hiff, hseparate⟩ := nodup_fileNames_iff h
    have hnodup := hseparate (by decide)
    exact ⟨files, rfl, hnodup, (hiff.mp hnodup).resolve_left (by decide)⟩

/-- Two categories that differ in camel case, `aBC` and `aBc`, but not once that is capitalised. -/
def collidingDocuments : List SourceDocument :=
  [.ofEntries "m.yaml" .metrics [("a.b.c", .mapping [("clicks", sampleCounter "Clicks.")]),
    ("a.bc", .mapping [("clicks", sampleCounter "Clicks.")])]]

/-- Compiling can succeed with two files of one name. -/
theorem fileNames_collide :
    ¬ ∀ (documents : List SourceDocument) (targetName : String) (namespaces : Namespaces)
      (options : Options) (files : List Document),
      compile .builtin documents targetName namespaces options = .ok files →
      (files.map (·.fileName)).Nodup := by
  intro h
  have hnames : ((compile .builtin collidingDocuments "kotlin" {} {}).toOption.map fun files =>
      files.map (·.fileName)) = some ["ABc.kt", "ABc.kt"] := by decide +kernel
  cases hfiles : compile .builtin collidingDocuments "kotlin" {} {} with
  | error e => simp [hfiles, Except.toOption] at hnames
  | ok files =>
    have hnodup := h _ _ _ _ _ hfiles
    have hboth : files.map (·.fileName) = ["ABc.kt", "ABc.kt"] := by
      rw [hfiles] at hnames
      exact Option.some.inj hnames
    rw [hboth] at hnodup
    exact absurd hnodup (by decide)

end TelemetryBindings
