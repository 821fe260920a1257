import TelemetryBindings.Proofs.ByteOrder
import TelemetryBindings.Proofs.Compiling
import TelemetryBindings.Proofs.KotlinTypes
import TelemetryBindings.Proofs.ReservedUnits
import TelemetryBindings.Proofs.SortedSet
import TelemetryBindings.Target.Basic

/-!
# Imports of generated Kotlin

A Kotlin file imports the runtime types that its declarations cite, each once and in ascending
order, and no other types.
-/
namespace TelemetryBindings

open Text

def Text.beginsWith (beginning line : String) : Bool := beginning.toList.isPrefixOf line.toList

namespace Kotlin

/-- The import lines of a file. Imports stand before the first declaration, so what comes after it
is none, whatever the texts of definitions put there. -/
def importLines (contents : String) : List String :=
  ((lines contents).takeWhile fun line => !beginsWith "internal object " line).filter
    (beginsWith "import ")

theorem beginsWith_append (beginning rest : String) : beginsWith beginning (beginning ++ rest) := by
  rw [beginsWith, List.isPrefixOf_iff_prefix, String.toList_append]
  exact List.prefix_append _ _

/-! ### The lines of a file -/

def opening : String :=
  "/*\n * AUTOGENERATED BY glean-codegen. DO NOT EDIT. DO NOT COMMIT.\n */\n\n" ++
    "@file:Suppress(\"PackageNaming\", \"MaxLineLength\")"

def importSection (k : Kotlin) (u : OutputUnit) : List String :=
  ["package " ++ k.package, ""] ++ (k.imports u).map ("import " ++ ·) ++ [""]

theorem header_layout (k : Kotlin) (u : OutputUnit) :
    (k.layout u).header = opening ++ "\n" ++
      (unlines (k.importSection u) ++ ("internal object " ++ containerName u ++ " \x7b\n")) := by
  have hsuppress : ("@file:Suppress(\"PackageNaming\", \"MaxLineLength\")\n" : String) =
      "@file:Suppress(\"PackageNaming\", \"MaxLineLength\")" ++ "\n" := rfl
  have hpackage : ("\n\n" : String) = "\n" ++ "\n" := rfl
  have hobject : ("\ninternal object " : String) = "\n" ++ "internal object " := rfl
  have hsection : unlines (k.importSection u) = "package " ++ k.package ++ "\n" ++ "\n" ++
      unlines ((k.imports u).map ("import " ++ ·)) ++ "\n" := by
    simp [← String.toList_inj, importSection, toList_unlines_append, unlines]
  unfold layout opening
  rw [hsuppress, hpackage, hobject, hsection]
  simp only [String.append_assoc]

/-- Before the package no line is an import, and none begins a declaration. -/
theorem opening_lines : ∀ line ∈ lines (opening ++ "\n"),
    beginsWith "internal object " line = false ∧ beginsWith "import " line = false := by
  decide +kernel

theorem section_lines (k : Kotlin) (u : OutputUnit) : ∀ line ∈ k.importSection u,
    beginsWith "internal object " line = false := by
  simp only [importSection, List.forall_mem_append, List.forall_mem_cons, List.forall_mem_map]
  refine ⟨⟨⟨?_, by decide, by simp⟩, fun path _ => ?_⟩, by decide, by simp⟩
  · simp [beginsWith, List.isPrefixOf]
  · simp [beginsWith, List.isPrefixOf]

theorem filter_importSection (k : Kotlin) (u : OutputUnit) :
    (k.importSection u).filter (beginsWith "import ") = (k.imports u).map ("import " ++ ·) := by
  have himports : ∀ line ∈ (k.imports u).map ("import " ++ ·), beginsWith "import " line :=
    List.forall_mem_map.mpr fun path _ => beginsWith_append "import " path
  have hpackage : beginsWith "import " ("package " ++ k.package) = false := by
    simp [beginsWith, List.isPrefixOf]
  have hempty : beginsWith "import " "" = false := by decide
  rw [importSection, List.filter_append, List.filter_append, List.filter_eq_self.mpr himports]
  simp [List.filter, hpackage, hempty]

theorem oneLine_importSection {k : Kotlin} {u : OutputUnit} (hpackage : OneLine k.package)
    (himports : ∀ path ∈ k.imports u, OneLine path) :
    ∀ line ∈ k.importSection u, OneLine line := by
  simp only [importSection, List.forall_mem_append, List.forall_mem_cons, List.forall_mem_map]
  exact ⟨⟨⟨oneLine_append.mpr ⟨by decide, hpackage⟩, by decide, by simp⟩,
    fun path hpath => oneLine_append.mpr ⟨by decide, himports path hpath⟩⟩, by decide, by simp⟩

/-- The line after the imports begins the declaration of the container. -/
theorem exists_container_line (rest : String) : ∃ line more,
    lines ("internal object " ++ rest) = line :: more ∧ beginsWith "internal object " line := by
  have hprefix : "internal object ".toList <+: ("internal object " ++ rest).toList := by
    rw [String.toList_append]
    exact List.prefix_append _ _
  have hwords : OneLine "internal object " := by decide
  obtain ⟨line, more, hsplit, hline⟩ := exists_prefix_splitLines hwords (by decide) hprefix
  refine ⟨String.ofList line, more.map String.ofList, by rw [lines, hsplit, List.map_cons], ?_⟩
  simpa [beginsWith, List.isPrefixOf_iff_prefix] using hline

theorem importLines_render {k : Kotlin} {u : OutputUnit} (hpackage : OneLine k.package)
    (himports : ∀ path ∈ k.imports u, OneLine path) (es : List Entry) :
    importLines ((k.layout u).render es) = (k.imports u).map ("import " ++ ·) := by
  obtain ⟨rest, hrender⟩ : ∃ rest, (k.layout u).render es =
      opening ++ "\n" ++ (unlines (k.importSection u) ++ ("internal object " ++ rest)) := by
    rw [Layout.render, header_layout]
    simp only [String.append_assoc]
    exact ⟨_, rfl⟩
  obtain ⟨line, more, hcontainer, hline⟩ := exists_container_line rest
  have hbefore : ∀ line ∈ lines (opening ++ "\n") ++ k.importSection u,
      !beginsWith "internal object " line := by
    refine List.forall_mem_append.mpr ⟨fun line hmem => ?_, fun line hmem => ?_⟩
    · rw [(opening_lines line hmem).1]
      rfl
    · rw [k.section_lines u line hmem]
      rfl
  have hopening : (lines (opening ++ "\n")).filter (beginsWith "import ") = [] :=
    List.filter_eq_nil_iff.mpr fun line hmem => by simp [(opening_lines line hmem).2]
  rw [importLines, hrender, lines_append_lineFeed,
    lines_unlines_append (oneLine_importSection hpackage himports), hcontainer, ← List.append_assoc,
    List.takeWhile_append_of_pos hbefore, List.takeWhile_cons, hline]
  simp [hopening, filter_importSection]

/-! ### Imported types -/

theorem mem_imports_iff {k : Kotlin} {u : OutputUnit} {path : String} :
    path ∈ k.imports u ↔
      ∃ i ∈ u.instruments, ∃ type, k.Cites i type ∧
        path = QualifiedName.qualify k.runtime type := by
  rw [imports, mem_sortedSet, List.mem_flatMap]
  refine exists_congr fun i => and_congr_right fun _ => ?_
  rw [mentioned_eq, List.mem_map]
  exact exists_congr fun type => and_congr k.cites_iff.symm eq_comm

theorem qualify_runtime (n : Namespaces) (type : String) :
    QualifiedName.qualify (ofNamespaces n).runtime type =
      n.runtimeOr "mozilla.components.service.glean" ++ ".private." ++ type := by
  have hne : (ofNamespaces n).runtime ≠ "" := fun hempty =>
    absurd (String.append_eq_empty_iff.mp hempty).2 (by decide)
  rw [QualifiedName.qualify, if_neg hne, ofNamespaces]
  simp [← String.toList_inj]

theorem oneLine_imports {k : Kotlin} (h : OneLine k.runtime) (u : OutputUnit) :
    ∀ path ∈ k.imports u, OneLine path := by
  intro path hpath
  obtain ⟨i, -, type, hcites, rfl⟩ := mem_imports_iff.mp hpath
  have htype := (runtimeTypeNames_spec type (k.mem_runtimeTypeNames type (k.cites_iff.mp hcites))).1
  rw [QualifiedName.qualify]
  split_ifs
  · exact htype
  · exact oneLine_append.mpr ⟨oneLine_append.mpr ⟨h, by decide⟩, htype⟩

theorem renderUnit_kotlin (k : Kotlin) (u : OutputUnit) :
    (Target.kotlin k).renderUnit u =
      .ok ⟨fileName u, (k.layout u).render (u.instruments.map k.entry)⟩ :=
  Target.renderUnit_eq_ok_iff.mpr ⟨u.instruments.map k.entry, List.mapM_pure, rfl⟩

theorem importLines_of_renderUnit {n : Namespaces} (hgenerated : ∀ s ∈ n.generated, OneLine s)
    (hruntime : ∀ s ∈ n.runtime, OneLine s) {u : OutputUnit} {file : Document}
    (h : (Target.kotlin (ofNamespaces n)).renderUnit u = .ok file) :
    importLines file.contents = ((ofNamespaces n).imports u).map ("import " ++ ·) := by
  have hpackage : OneLine (ofNamespaces n).package := getD_of_forall_mem hgenerated (by decide)
  have hspace : OneLine (ofNamespaces n).runtime :=
    oneLine_append.mpr ⟨getD_of_forall_mem hruntime (by decide), by decide⟩
  obtain rfl := Except.ok.inj ((renderUnit_kotlin _ u).symm.trans h)
  exact importLines_render hpackage (oneLine_imports hspace u) _

/-- The file of a unit imports the runtime types that the declarations of its instruments cite, each
once and in the order of their bytes, and nothing else. -/
theorem importLines_renderUnit (n : Namespaces) (hgenerated : ∀ s ∈ n.generated, OneLine s)
    (hruntime : ∀ s ∈ n.runtime, OneLine s) (u : OutputUnit) :
    ∃ (file : Document) (paths : List String),
      (Target.kotlin (ofNamespaces n)).renderUnit u = .ok file ∧
      importLines file.contents = paths.map ("import " ++ ·) ∧
      paths.Pairwise (fun a b => bytes a < bytes b) ∧
      (∀ path, path ∈ paths ↔ ∃ i ∈ u.instruments, ∃ type, (ofNamespaces n).Cites i type ∧
        path = n.runtimeOr "mozilla.components.service.glean" ++ ".private." ++ type) ∧
      ∀ i ∈ u.instruments, ∀ type, (ofNamespaces n).Cites i type → type ∈ runtimeTypeNames := by
  have hrender := renderUnit_kotlin (ofNamespaces n) u
  refine ⟨_, (ofNamespaces n).imports u, hrender,
    importLines_of_renderUnit hgenerated hruntime hrender, ?_, fun path => ?_,
    fun i _ type htype => mem_runtimeTypeNames _ type ((cites_iff _).mp htype)⟩
  · simp only [bytes_lt_iff]
    exact List.sortedLT_iff_pairwise.mp (sortedLT_sortedSet _)
  · simp only [mem_imports_iff, qualify_runtime]

def otherRuntime : Namespaces where
  runtime := some "org.example.glean"

def tapsUnit : OutputUnit where
  id := "taps"
  kind := .category "taps"
  instruments := [
    .metric { sampleMetric "taps" "opened" with type := .event .empty },
    .metric { sampleMetric "taps" "presses" with type := .labeled .counter none }]

theorem importLines_renderUnit_taps : ∃ (file : Document) (paths : List String),
    (Target.kotlin (ofNamespaces otherRuntime)).renderUnit tapsUnit = .ok file ∧
      importLines file.contents = paths.map ("import " ++ ·) ∧
      importLines file.contents = [
        "import org.example.glean.private.CounterMetricType",
        "import org.example.glean.private.EventMetricType",
        "import org.example.glean.private.LabeledMetricType",
        "import org.example.glean.private.Lifetime",
        "import org.example.glean.private.NoExtraKeys"] ∧
      paths.Pairwise (fun a b => bytes a < bytes b) ∧
      ∀ path, path ∈ paths ↔ ∃ i ∈ tapsUnit.instruments, ∃ type,
        (ofNamespaces otherRuntime).Cites i type ∧
          path = "org.example.glean" ++ ".private." ++ type := by
  have hgenerated : ∀ s ∈ otherRuntime.generated, OneLine s := fun s hs => nomatch hs
  have hruntime : ∀ s ∈ otherRuntime.runtime, OneLine s := by
    rintro _ ⟨⟩
    decide
  have himports : ((ofNamespaces otherRuntime).imports tapsUnit).map ("import " ++ ·) = [
      "import org.example.glean.private.CounterMetricType",
      "import org.example.glean.private.EventMetricType",
      "import org.example.glean.private.LabeledMetricType",
      "import org.example.glean.private.Lifetime",
      "import org.example.glean.private.NoExtraKeys"] := by
    decide
  obtain ⟨file, paths, hfile, hlines, hsorted, hcited, -⟩ :=
    importLines_renderUnit otherRuntime hgenerated hruntime tapsUnit
  have hmodel := importLines_of_renderUnit hgenerated hruntime hfile
  exact ⟨file, paths, hfile, hlines, hmodel.trans himports, hsorted, hcited⟩

end Kotlin

end TelemetryBindings
