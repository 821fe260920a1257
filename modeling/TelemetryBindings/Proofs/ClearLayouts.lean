import TelemetryBindings.Proofs.Compiling
import TelemetryBindings.Proofs.ContainedCode

/-!
# Headers and their comments

Every target puts a fixed text around the entries of a unit, with the name of the unit and the
namespaces in it. If the namespaces hold no asterisk, then the only comment of that text that could
hold one is the notice at its beginning, which ends before the first name.
-/
namespace TelemetryBindings

open Identifier Text

structure Namespaces.Starless (n : Namespaces) : Prop where
  generated : ∀ s ∈ n.generated, Text.Starless s
  runtime : ∀ s ∈ n.runtime, Text.Starless s

theorem Instrument.PlainNames.unitId {i : Instrument} (h : i.PlainNames) : Plain i.unitId := by
  cases i with
  | metric m => exact plain_unitId (Metric.PlainNames.category h)
  | ping q => exact (by decide : Plain pingsUnitId)

/-- A text without asterisks whose last line has ended begins no comment. -/
theorem Text.code_append {s line : String} (hs : Starless s) (hl : Starless line)
    (hlast : line.toList.getLast? = some '\n') : Code (s ++ line).toList := by
  refine ⟨starless_append.mpr ⟨hs, hl⟩, ?_⟩
  rw [String.toList_append, List.getLast?_append, hlast]
  simp

/-! ### Imported names -/

def QualifiedName.Within (space : String) : QualifiedName → Prop
  | .plain s name => s = space ∧ Plain name
  | .applied s name argument => s = space ∧ Plain name ∧ argument.Within space

theorem QualifiedName.exists_plain_of_mem_imports {space : String} {q : QualifiedName}
    (h : q.Within space) : ∀ path ∈ q.imports, ∃ word, Plain word ∧ path = qualify space word := by
  induction q with
  | plain s name =>
    obtain ⟨rfl, hname⟩ := h
    exact List.forall_mem_singleton.mpr ⟨name, hname, rfl⟩
  | applied s name argument ih =>
    obtain ⟨rfl, hname, hargument⟩ := h
    exact List.forall_mem_cons.mpr ⟨⟨name, hname, rfl⟩, ih hargument⟩

theorem QualifiedName.starless_qualify {space name : String} (hs : Text.Starless space)
    (hn : Text.Starless name) : Text.Starless (qualify space name) := by
  rw [qualify]
  split
  · exact hn
  · exact starless_append.mpr ⟨starless_append.mpr ⟨hs, by decide⟩, hn⟩

namespace Kotlin

variable {k : Kotlin}

theorem within_className (v : Variant) : (k.className v).Within k.runtime := by
  have hping : Plain "PingType" := by decide
  have hword := plain_classWord hping
  rw [className, runtimeClass]
  split
  · next inner _ => exact ⟨rfl, hword v, rfl, hword inner⟩
  · exact ⟨rfl, hword v⟩

theorem within_argumentType? (type : MetricType) :
    ∀ q ∈ k.argumentType? type, q.Within k.runtime := by
  intro q hq
  cases type <;> simp only [argumentType?, runtimeType, Option.mem_def, Option.some.injEq,
    reduceCtorEq] at hq
  case event extraKeys =>
    split at hq
    · exact Option.some.inj hq ▸ ⟨rfl, by decide⟩
    · cases hq
  case labeled inner labels => exact hq ▸ within_className inner.variant
  all_goals exact hq ▸ ⟨rfl, by decide⟩

/-- The imports of a unit are paths of fixed names into the runtime library. -/
theorem exists_plain_of_mem_mentioned (i : Instrument) :
    ∀ path ∈ k.mentioned i, ∃ word, Plain word ∧ path = QualifiedName.qualify k.runtime word := by
  refine List.forall_mem_append.mpr
    ⟨QualifiedName.exists_plain_of_mem_imports (within_className i.variant), ?_⟩
  cases i with
  | metric m =>
    refine List.forall_mem_append.mpr
      ⟨QualifiedName.exists_plain_of_mem_imports ⟨rfl, by decide⟩, ?_⟩
    cases htype : k.argumentType? m.type with
    | none => exact fun path hpath => absurd hpath List.not_mem_nil
    | some q =>
      exact QualifiedName.exists_plain_of_mem_imports (within_argumentType? m.type q htype)
  | ping q =>
    simp only
    split
    · exact QualifiedName.exists_plain_of_mem_imports ⟨rfl, by decide⟩
    · exact fun path hpath => absurd hpath List.not_mem_nil

/-- The notice that begins every file, without the marks of the comment. -/
def noticeBody : List Char :=
  "\n * AUTOGENERATED BY glean-codegen. DO NOT EDIT. DO NOT COMMIT.\n ".toList

theorem sameCode_notice : SameCode
    "/*\n * AUTOGENERATED BY glean-codegen. DO NOT EDIT. DO NOT COMMIT.\n */\n\n".toList
    "/*\n * AUTOGENERATED BY glean-codegen. DO NOT EDIT. DO NOT COMMIT.\n */\n\n".toList := by
  intro r s hrs
  have hnotice :
      "/*\n * AUTOGENERATED BY glean-codegen. DO NOT EDIT. DO NOT COMMIT.\n */\n\n".toList =
        '/' :: '*' :: (noticeBody ++ '*' :: '/' :: ['\n', '\n']) := by decide +kernel
  have hbody : Unclosed noticeBody := by decide +kernel
  have hend : Code ['\n', '\n'] := ⟨by decide, by decide⟩
  have hstrip : ∀ rest : List Char, stripComments false
      ('/' :: '*' :: (noticeBody ++ '*' :: '/' :: ['\n', '\n']) ++ rest) =
        ['\n', '\n'] ++ stripComments false rest := by
    intro rest
    rw [List.cons_append, List.cons_append, List.append_assoc, List.cons_append, List.cons_append,
      stripComments_comment hbody, stripComments_code hend]
  rw [hnotice, hstrip, hstrip, hrs]

theorem clear_layout (hp : Starless k.package) (hr : Starless k.runtime) {u : OutputUnit}
    (hid : Plain u.id) : (k.layout u).Clear := by
  have hindent : Code indent.toList := ⟨by decide, by decide⟩
  refine ⟨?_, hindent, starless_empty⟩
  have himports : Starless (unlines ((k.imports u).map ("import " ++ ·))) := by
    refine (code_unlines (List.forall_mem_map.mpr fun path hpath => ?_)).starless
    obtain ⟨i, -, hi⟩ := List.mem_flatMap.mp (Text.mem_sortedSet.mp hpath)
    obtain ⟨word, hword, rfl⟩ := exists_plain_of_mem_mentioned i path hi
    exact starless_append.mpr
      ⟨by decide, QualifiedName.starless_qualify hr (starless_of_plain hword)⟩
  have hrest : Code ("@file:Suppress(\"PackageNaming\", \"MaxLineLength\")\n" ++
      "package " ++ k.package ++ "\n\n" ++
      unlines ((k.imports u).map ("import " ++ ·)) ++
      "\ninternal object " ++ containerName u ++ " \x7b\n").toList := by
    refine code_append ?_ (by decide) (by decide)
    simp only [starless_append]
    exact ⟨⟨⟨⟨⟨⟨by decide, by decide⟩, hp⟩, by decide⟩, himports⟩, by decide⟩,
      starless_of_plain (plain_pascal hid)⟩
  have happend := sameCode_notice.append hrest.sameCode
  rw [← String.toList_append] at happend
  unfold layout
  simpa only [String.append_assoc] using happend

end Kotlin

theorem JavaScript.clear_layout {u : OutputUnit} (hid : Plain u.id) :
    (JavaScript.layout u).Clear := by
  have hindent : Code indent.toList := ⟨by decide, by decide⟩
  have hseparator : Starless "," := by decide
  refine ⟨Code.sameCode (code_append ?_ (by decide) (by decide)), hindent, hseparator⟩
  exact starless_append.mpr ⟨by decide +kernel, starless_of_plain hid⟩

theorem Swift.clear_layout {w : Swift} (he : Starless w.extended) (hr : Starless w.runtime)
    {u : OutputUnit} (hid : Plain u.id) : (w.layout u).Clear := by
  have hindent : Code (indent ++ indent).toList := ⟨by decide, by decide⟩
  refine ⟨Code.sameCode (code_append ?_ (by decide) (by decide)), hindent, starless_empty⟩
  have hrules : Starless (unlines (lintRules.map ("// swiftlint:disable " ++ ·))) := by
    decide +kernel
  simp only [starless_append, and_assoc]
  exact ⟨by decide +kernel, by decide, hr, by decide, hrules, by decide, he, by decide, by decide,
    by decide, starless_of_plain (plain_pascal hid)⟩

/-- The text around the entries is clear for every target of namespaces without asterisks. -/
theorem Target.clear_layout {targetName : String} {namespaces : Namespaces} {t : Target}
    (hn : namespaces.Starless) (ht : Registry.builtin.create targetName namespaces = .ok t)
    {u : OutputUnit} (hid : Plain u.id) : (t.layout u).Clear := by
  obtain ⟨-, rfl⟩ | ⟨-, rfl⟩ | ⟨-, rfl⟩ := Registry.create_builtin_eq_ok_iff.mp ht
  · exact JavaScript.clear_layout hid
  · have hruntime : Starless (namespaces.runtimeOr "mozilla.components.service.glean") :=
      getD_of_forall_mem hn.runtime (by decide)
    exact Kotlin.clear_layout (getD_of_forall_mem hn.generated (by decide))
      (starless_append.mpr ⟨hruntime, by decide⟩) hid
  · exact Swift.clear_layout (getD_of_forall_mem hn.generated (by decide))
      (getD_of_forall_mem hn.runtime (by decide)) hid

end TelemetryBindings
