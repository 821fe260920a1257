import TelemetryBindings.Proofs.KotlinImports
import TelemetryBindings.Proofs.RenderedLines
import TelemetryBindings.Target.Registry

/-!
# What namespaces change

A class carries its namespace, but a declaration names it without one, so that whatever namespaces
are configured the entries of a file stay as they are. Namespaces stand in its header: in the
package and the imports of a Kotlin file, in the import and the extension of a Swift file. The
imports of a Kotlin file are sorted with their namespace, which is the order of their last parts.
-/
namespace TelemetryBindings

open Text

structure Namespaces.Unbroken (n : Namespaces) : Prop where
  generated : ∀ s ∈ n.generated, Text.Unbroken s
  runtime : ∀ s ∈ n.runtime, Text.Unbroken s

/-! ### Names in another namespace -/

namespace QualifiedName

def inSpace (space : String) : QualifiedName → QualifiedName
  | .plain _ name => .plain space name
  | .applied _ name argument => .applied space name (argument.inSpace space)

variable (space : String) (q : QualifiedName)

@[simp] theorem name_inSpace : (q.inSpace space).name = q.name := by
  cases q <;> rfl

@[simp] theorem simple_inSpace : (q.inSpace space).simple = q.simple := by
  induction q with
  | plain _ name => rfl
  | applied _ name argument ih => rw [inSpace, simple, simple, ih]

@[simp] theorem names_inSpace : (q.inSpace space).names = q.names := by
  induction q with
  | plain _ name => rfl
  | applied _ name argument ih => rw [inSpace, names, names, ih]

/-- Names in the same namespace are ordered as they are without it. -/
theorem strictMono_qualify : StrictMono (qualify space) := by
  intro a b hlt
  unfold qualify
  split_ifs
  · exact hlt
  · rw [String.lt_iff_toList_lt] at hlt ⊢
    simp only [String.toList_append]
    exact List.append_left_lt hlt

end QualifiedName

theorem inSpace_runtimeClass (space old pingWord : String) (v : Variant) :
    (runtimeClass old pingWord v).inSpace space = runtimeClass space pingWord v := by
  unfold runtimeClass
  split <;> rfl

namespace Layout

def headless (l : Layout) : Layout := { l with header := "" }

theorem render_eq_header_append (l : Layout) (es : List Entry) :
    l.render es = l.header ++ l.headless.render es := by
  rw [render, render, bodyLines_eq, bodyLines_eq, headless, String.empty_append,
    String.append_assoc]
  rfl

end Layout

/-! ### Kotlin -/

namespace Kotlin

def bare : Kotlin := ⟨"", ""⟩

variable (k : Kotlin)

theorem className_eq (v : Variant) : k.className v = (bare.className v).inSpace k.runtime :=
  (inSpace_runtimeClass k.runtime bare.runtime "PingType" v).symm

theorem subMetricCall_eq (m : Metric) (inner : LabeledInner) :
    k.subMetricCall m inner = bare.subMetricCall m inner := by
  rw [subMetricCall, className_eq, QualifiedName.name_inSpace]
  rfl

theorem extraArguments_eq (m : Metric) : k.extraArguments m = bare.extraArguments m := by
  unfold extraArguments
  cases m.type with
  | labeled inner labels => simp only [subMetricCall_eq k]
  | _ => rfl

theorem call_eq (i : Instrument) : k.call i = bare.call i := by
  cases i with
  | metric m =>
    rw [call, metricCall, className_eq, QualifiedName.name_inSpace, extraArguments_eq]
    rfl
  | ping p =>
    rw [call, pingCall, className_eq, QualifiedName.name_inSpace]
    rfl

theorem propertyType_eq (i : Instrument) : k.propertyType i = bare.propertyType i := by
  rw [propertyType, className_eq, QualifiedName.simple_inSpace]
  rfl

/-- An instrument is written without namespaces. -/
theorem entry_eq (i : Instrument) : k.entry i = bare.entry i := by
  rw [entry, entry, declaration.eq_def, declaration.eq_def, propertyType_eq, call_eq]

theorem argumentType?_eq (t : MetricType) :
    k.argumentType? t = (bare.argumentType? t).map (·.inSpace k.runtime) := by
  cases t with
  | labeled inner labels =>
    rw [argumentType?, className_eq]
    rfl
  | event extraKeys =>
    simp only [argumentType?]
    split <;> rfl
  | _ => rfl

theorem runtimeTypes_eq (i : Instrument) : k.runtimeTypes i = bare.runtimeTypes i := by
  have hclass : (k.className i.variant).names = (bare.className i.variant).names := by
    rw [className_eq, QualifiedName.names_inSpace]
  cases i with
  | metric m =>
    have hargument : (k.argumentType? m.type).map (·.names) =
        (bare.argumentType? m.type).map (·.names) := by
      rw [argumentType?_eq, Option.map_map]
      simp only [Function.comp_def, QualifiedName.names_inSpace]
    simp only [runtimeTypes, hclass, hargument]
  | ping p => simp only [runtimeTypes, hclass]

def importedTypes (u : OutputUnit) : List String :=
  sortedSet (u.instruments.flatMap bare.runtimeTypes)

theorem imports_eq (u : OutputUnit) :
    k.imports u = (importedTypes u).map (QualifiedName.qualify k.runtime) := by
  have hmentioned : u.instruments.flatMap k.mentioned =
      (u.instruments.flatMap bare.runtimeTypes).map (QualifiedName.qualify k.runtime) := by
    rw [List.map_flatMap]
    congr 1
    funext i
    rw [mentioned_eq, runtimeTypes_eq]
  rw [imports, hmentioned, sortedSet_map (QualifiedName.strictMono_qualify k.runtime)]
  rfl

theorem runtimeTypeNames_dotless : ∀ type ∈ runtimeTypeNames, '.' ∉ type.toList := by
  decide

theorem mem_runtimeTypeNames_of_imported {u : OutputUnit} {type : String}
    (h : type ∈ importedTypes u) : type ∈ runtimeTypeNames := by
  obtain ⟨i, -, htype⟩ := List.mem_flatMap.mp (mem_sortedSet.mp h)
  exact bare.mem_runtimeTypeNames type htype

/-- The lines of a file that hold namespaces: the package, and after an empty line the imports. -/
def namespaceLines (types : List String) : List String :=
  ["package " ++ k.package, ""] ++ types.map fun type => "import " ++ k.runtime ++ "." ++ type

theorem importSection_eq (hruntime : k.runtime ≠ "") (u : OutputUnit) :
    k.importSection u = k.namespaceLines (importedTypes u) ++ [""] := by
  have himport : ("import " ++ ·) ∘ QualifiedName.qualify k.runtime =
      fun type => "import " ++ k.runtime ++ "." ++ type := by
    funext type
    simp only [Function.comp_apply, QualifiedName.qualify, if_neg hruntime, String.append_assoc]
  rw [importSection, imports_eq, List.map_map, himport, namespaceLines]

/-- How the entries of a file stand in its container. -/
def inner : Layout := ⟨"", "\x7d\n", indent, ""⟩

theorem headless_layout (u : OutputUnit) : (k.layout u).headless = inner := rfl

def container (u : OutputUnit) : String :=
  "internal object " ++ containerName u ++ " \x7b\n" ++
    inner.render (u.instruments.map bare.entry)

theorem layout_render (u : OutputUnit) (es : List Entry) : (k.layout u).render es =
    opening ++ "\n" ++ (unlines (k.importSection u) ++
      ("internal object " ++ containerName u ++ " \x7b\n" ++ inner.render es)) := by
  rw [Layout.render_eq_header_append, header_layout, headless_layout]
  simp only [String.append_assoc]

theorem render_eq (u : OutputUnit) : (k.layout u).render (u.instruments.map k.entry) =
    opening ++ "\n" ++ (unlines (k.importSection u) ++ container u) := by
  have hentries : u.instruments.map k.entry = u.instruments.map bare.entry :=
    List.map_congr_left fun i _ => k.entry_eq i
  rw [hentries]
  exact k.layout_render u (u.instruments.map bare.entry)

/-- A type is imported in a single line. -/
theorem unbroken_import (hruntime : Unbroken k.runtime) {u : OutputUnit} {type : String}
    (h : type ∈ importedTypes u) : Unbroken ("import " ++ k.runtime ++ "." ++ type) := by
  have hline := (runtimeTypeNames_spec type (mem_runtimeTypeNames_of_imported h)).1
  have htype : Unbroken type := fun hfeed => (hline _ hfeed).1 rfl
  have hfixed : Unbroken "import " ∧ Unbroken "." := by decide
  simp only [unbroken_append, hfixed, hruntime, htype, and_self]

theorem unbroken_namespaceLines (hpackage : Unbroken k.package) (hruntime : Unbroken k.runtime)
    (u : OutputUnit) : ∀ line ∈ k.namespaceLines (importedTypes u), Unbroken line := by
  have hfirst : Unbroken ("package " ++ k.package) := unbroken_append.mpr ⟨by decide, hpackage⟩
  refine List.forall_mem_append.mpr ⟨?_, List.forall_mem_map.mpr fun type htype => ?_⟩
  · simp [hfirst, unbroken_empty]
  · exact k.unbroken_import hruntime htype

/-- A file has its namespaces in the lines of package and imports, between lines that are the same
for all namespaces. -/
theorem pieces_render (hpackage : Unbroken k.package) (hruntime : Unbroken k.runtime)
    (hne : k.runtime ≠ "") (u : OutputUnit) :
    pieces ((k.layout u).render (u.instruments.map k.entry)) =
      pieces opening ++ k.namespaceLines (importedTypes u) ++ ([""] ++ pieces (container u)) := by
  have hsection : ∀ line ∈ k.namespaceLines (importedTypes u) ++ [""], Unbroken line :=
    List.forall_mem_append.mpr ⟨k.unbroken_namespaceLines hpackage hruntime u,
      List.forall_mem_singleton.mpr unbroken_empty⟩
  rw [render_eq, importSection_eq k hne, pieces_append_lineFeed, pieces_unlines_append hsection]
  simp only [List.append_assoc]

end Kotlin

/-! ### Swift -/

namespace Swift

def bare : Swift := ⟨"", ""⟩

variable (w : Swift)

theorem constructor_eq (i : Instrument) : w.constructor i = bare.constructor i := by
  have hclass : w.className i.variant = (bare.className i.variant).inSpace w.runtime :=
    (inSpace_runtimeClass w.runtime bare.runtime "Ping" i.variant).symm
  rw [constructor, hclass, QualifiedName.simple_inSpace]
  rfl

/-- An instrument is written without namespaces. -/
theorem entry_eq (i : Instrument) : w.entry i = bare.entry i := by
  have hcall : w.call i = bare.call i := by
    cases i <;> simp only [call, constructor_eq w]
  rw [entry, entry, hcall]

def notice : List String := ["// AUTOGENERATED BY glean-codegen. DO NOT EDIT. DO NOT COMMIT.", ""]

def directives : List String := [""] ++ lintRules.map ("// swiftlint:disable " ++ ·) ++ [""]

def extensionLine : String := "extension " ++ w.extended ++ " \x7b"

def headerLines : List String :=
  notice ++ ["import " ++ w.runtime] ++ directives ++ [w.extensionLine]

theorem header_layout (u : OutputUnit) : (w.layout u).header =
    unlines w.headerLines ++ (indent ++ "enum " ++ containerName u ++ " \x7b\n") := by
  have hnotice : "// AUTOGENERATED BY glean-codegen. DO NOT EDIT. DO NOT COMMIT.\n\n" =
      unlines notice := rfl
  have hempty : unlines [""] = "\n" := rfl
  have himport : ("\n\n" : String) = "\n" ++ "\n" := rfl
  have hextension : ("\nextension " : String) = "\n" ++ "extension " := rfl
  have hbrace : (" \x7b\n" : String) = " \x7b" ++ "\n" := rfl
  unfold layout headerLines directives extensionLine
  simp only [unlines_append, unlines_singleton, hempty]
  rw [hnotice, himport, hextension, hbrace]
  simp only [String.append_assoc]

def inner : Layout := ⟨"", indent ++ "\x7d\n\x7d\n", indent ++ indent, ""⟩

theorem headless_layout (u : OutputUnit) : (w.layout u).headless = inner := rfl

def container (u : OutputUnit) : String :=
  indent ++ "enum " ++ containerName u ++ " \x7b\n" ++ inner.render (u.instruments.map bare.entry)

theorem layout_render (u : OutputUnit) (es : List Entry) : (w.layout u).render es =
    unlines w.headerLines ++ (indent ++ "enum " ++ containerName u ++ " \x7b\n" ++
      inner.render es) := by
  rw [Layout.render_eq_header_append, header_layout, headless_layout, String.append_assoc]

theorem unbroken_headerLines (hextended : Unbroken w.extended) (hruntime : Unbroken w.runtime) :
    ∀ line ∈ w.headerLines, Unbroken line := by
  have hfixed : ∀ line ∈ notice ++ directives, Unbroken line := by decide
  have hnotice := (List.forall_mem_append.mp hfixed).1
  have hdirectives := (List.forall_mem_append.mp hfixed).2
  have hwords : Unbroken "extension " ∧ Unbroken " \x7b" := by decide
  have himport : Unbroken ("import " ++ w.runtime) := unbroken_append.mpr ⟨by decide, hruntime⟩
  have hextension : Unbroken w.extensionLine := by
    simp only [extensionLine, unbroken_append, hwords, hextended, and_self]
  simp only [headerLines, List.forall_mem_append, List.forall_mem_singleton]
  exact ⟨⟨⟨hnotice, himport⟩, hdirectives⟩, hextension⟩

/-- A file has its namespaces in two lines of its header, the others are the same for all
namespaces. -/
theorem pieces_render (hextended : Unbroken w.extended) (hruntime : Unbroken w.runtime)
    (u : OutputUnit) : pieces ((w.layout u).render (u.instruments.map w.entry)) =
      notice ++ ["import " ++ w.runtime] ++ directives ++ [w.extensionLine] ++
        pieces (container u) := by
  have hentries : u.instruments.map w.entry = u.instruments.map bare.entry :=
    List.map_congr_left fun i _ => w.entry_eq i
  have hrender : (w.layout u).render (u.instruments.map bare.entry) =
      unlines w.headerLines ++ container u := w.layout_render u _
  rw [hentries, hrender, pieces_unlines_append (w.unbroken_headerLines hextended hruntime)]
  rfl

theorem renderUnit_swift (u : OutputUnit) : (Target.swift w).renderUnit u =
    .ok ⟨fileName u, (w.layout u).render (u.instruments.map w.entry)⟩ :=
  Target.renderUnit_eq_ok_iff.mpr ⟨u.instruments.map w.entry, List.mapM_pure, rfl⟩

end Swift

/-! ### Documents for two namespaces -/

namespace Namespaces

variable {n : Namespaces}

theorem Unbroken.kotlin (h : n.Unbroken) :
    Text.Unbroken (Kotlin.ofNamespaces n).package ∧
      Text.Unbroken (Kotlin.ofNamespaces n).runtime := by
  have hruntime : Text.Unbroken (n.runtimeOr "mozilla.components.service.glean") :=
    getD_of_forall_mem h.runtime (by decide)
  exact ⟨getD_of_forall_mem h.generated (by decide),
    unbroken_append.mpr ⟨hruntime, by decide⟩⟩

theorem Unbroken.swift (h : n.Unbroken) :
    Text.Unbroken (Swift.ofNamespaces n).extended ∧ Text.Unbroken (Swift.ofNamespaces n).runtime :=
  ⟨getD_of_forall_mem h.generated (by decide), getD_of_forall_mem h.runtime (by decide)⟩

theorem runtime_kotlin_ne_empty (n : Namespaces) : (Kotlin.ofNamespaces n).runtime ≠ "" :=
  fun hempty => absurd (String.append_eq_empty_iff.mp hempty).2 (by decide)

end Namespaces

/-- Two configurations of namespaces give the same JavaScript. Their Kotlin differs in the package
and in what stands before the last dot of every import, and their Swift in what is imported and
what is extended. -/
theorem renderUnit_namespaces (u : OutputUnit) (n₁ n₂ : Namespaces) (h₁ : n₁.Unbroken)
    (h₂ : n₂.Unbroken) :
    (Registry.javascript n₁).renderUnit u = (Registry.javascript n₂).renderUnit u ∧
    (∃ (d₁ d₂ : Document) (before types after : List String),
      (Registry.kotlin n₁).renderUnit u = .ok d₁ ∧ (Registry.kotlin n₂).renderUnit u = .ok d₂ ∧
      d₁.fileName = d₂.fileName ∧ (∀ type ∈ types, '.' ∉ type.toList) ∧
      pieces d₁.contents = before ++ (Kotlin.ofNamespaces n₁).namespaceLines types ++ after ∧
      pieces d₂.contents = before ++ (Kotlin.ofNamespaces n₂).namespaceLines types ++ after) ∧
    ∃ (d₁ d₂ : Document) (before between after : List String),
      (Registry.swift n₁).renderUnit u = .ok d₁ ∧ (Registry.swift n₂).renderUnit u = .ok d₂ ∧
      d₁.fileName = d₂.fileName ∧
      pieces d₁.contents = before ++ ["import " ++ (Swift.ofNamespaces n₁).runtime] ++ between ++
        ["extension " ++ (Swift.ofNamespaces n₁).extended ++ " \x7b"] ++ after ∧
      pieces d₂.contents = before ++ ["import " ++ (Swift.ofNamespaces n₂).runtime] ++ between ++
        ["extension " ++ (Swift.ofNamespaces n₂).extended ++ " \x7b"] ++ after := by
  refine ⟨rfl, ?kotlin, ?swift⟩
  case kotlin =>
    have hdotless : ∀ type ∈ Kotlin.importedTypes u, '.' ∉ type.toList := fun type htype =>
      Kotlin.runtimeTypeNames_dotless type (Kotlin.mem_runtimeTypeNames_of_imported htype)
    exact ⟨_, _, _, _, _, Kotlin.renderUnit_kotlin _ u, Kotlin.renderUnit_kotlin _ u, rfl, hdotless,
      Kotlin.pieces_render _ h₁.kotlin.1 h₁.kotlin.2 (Namespaces.runtime_kotlin_ne_empty n₁) u,
      Kotlin.pieces_render _ h₂.kotlin.1 h₂.kotlin.2 (Namespaces.runtime_kotlin_ne_empty n₂) u⟩
  case swift =>
    exact ⟨_, _, _, _, _, Swift.renderUnit_swift _ u, Swift.renderUnit_swift _ u, rfl,
      Swift.pieces_render _ h₁.swift.1 h₁.swift.2 u, Swift.pieces_render _ h₂.swift.1 h₂.swift.2 u⟩

def renamed : Namespaces where
  generated := some "org.example.metrics"
  runtime := some "org.example.glean"

def openedUnit : OutputUnit where
  id := "taps"
  kind := .category "taps"
  instruments := [.metric { sampleMetric "taps" "opened" with type := .event .empty }]

theorem renderUnit_namespaces_renamed : ({} : Namespaces).Unbroken ∧ renamed.Unbroken ∧
    (∃ d, (Registry.javascript {}).renderUnit openedUnit = .ok d ∧
      (Registry.javascript renamed).renderUnit openedUnit = .ok d) ∧
    (∃ (d₁ d₂ : Document) (before types after : List String),
      (Registry.kotlin {}).renderUnit openedUnit = .ok d₁ ∧
      (Registry.kotlin renamed).renderUnit openedUnit = .ok d₂ ∧ d₁.fileName = d₂.fileName ∧
      pieces d₁.contents = before ++ (["package GleanMetrics", ""] ++
        types.map ("import mozilla.components.service.glean.private." ++ ·)) ++ after ∧
      pieces d₂.contents = before ++ (["package org.example.metrics", ""] ++
        types.map ("import org.example.glean.private." ++ ·)) ++ after) ∧
    ∃ (d₁ d₂ : Document) (before between after : List String),
      (Registry.swift {}).renderUnit openedUnit = .ok d₁ ∧
      (Registry.swift renamed).renderUnit openedUnit = .ok d₂ ∧ d₁.fileName = d₂.fileName ∧
      pieces d₁.contents =
        before ++ ["import Glean"] ++ between ++ ["extension GleanMetrics \x7b"] ++ after ∧
      pieces d₂.contents = before ++ ["import org.example.glean"] ++ between ++
        ["extension org.example.metrics \x7b"] ++ after := by
  have hdefault : ({} : Namespaces).Unbroken := ⟨by simp, by simp⟩
  have hrenamed : renamed.Unbroken := by
    constructor <;> rintro _ ⟨⟩ <;> decide
  have hdocument : ∃ d, (Registry.javascript {}).renderUnit openedUnit = .ok d := ⟨_, rfl⟩
  obtain ⟨d, hd⟩ := hdocument
  obtain ⟨hjavascript, hkotlin, hswift⟩ :=
    renderUnit_namespaces openedUnit {} renamed hdefault hrenamed
  obtain ⟨k₁, k₂, before, types, after, hk₁, hk₂, hname, -, hlines₁, hlines₂⟩ := hkotlin
  exact ⟨hdefault, hrenamed, ⟨d, hd, hjavascript.symm.trans hd⟩,
    ⟨k₁, k₂, before, types, after, hk₁, hk₂, hname, hlines₁, hlines₂⟩, hswift⟩

end TelemetryBindings
