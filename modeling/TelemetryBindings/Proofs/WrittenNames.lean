import TelemetryBindings.Proofs.DeclaredNames
import TelemetryBindings.Proofs.ContainedCode
import TelemetryBindings.Proofs.Occurrence

/-!
# Declared names are written

Every name that a unit declares stands in the file of the unit, between the words that make it a
declaration. Names are checked, so none of them is torn apart where a declaration is broken into
lines and indented.
-/
namespace TelemetryBindings

open Identifier Text

/-! ### Parts of an entry -/

section

variable {part : String} {e : Entry} {l : Layout}

theorem Entry.exists_terminated (separator : String) {line : String} {ls : List String}
    (h : line ∈ ls) : ∃ line' ∈ terminated separator ls, Occurs line line' := by
  match ls with
  | [last] =>
    obtain rfl := List.mem_singleton.mp h
    exact ⟨_, List.mem_singleton_self _, occurs_append_left _ _⟩
  | first :: next :: rest =>
    rw [terminated.eq_3 _ _ _ (by simp)]
    rcases List.mem_cons.mp h with rfl | h
    · exact ⟨_, List.mem_cons_self, List.infix_rfl⟩
    · obtain ⟨line', hmem, hline⟩ := exists_terminated separator h
      exact ⟨line', List.mem_cons_of_mem _ hmem, hline⟩

def Entry.Writes (e : Entry) (part : String) : Prop :=
  Occurs part e.declaration ∨ ∃ block ∈ e.preamble, Occurs part block

theorem Entry.Writes.exists_line (h : e.Writes part) (hline : OneLine part) (hne : part ≠ "")
    (separator : String) : ∃ line ∈ e.lines separator, Occurs part line := by
  rcases h with h | ⟨block, hblock, h⟩
  · obtain ⟨line, hmem, hpart⟩ := exists_line_of_occurs hline hne h
    obtain ⟨line', hmem', hline'⟩ := Entry.exists_terminated separator hmem
    exact ⟨line', List.mem_append_right _ (List.mem_append_right _ hmem'), hpart.trans hline'⟩
  · obtain ⟨line, hmem, hpart⟩ := exists_line_of_occurs hline hne h
    exact ⟨line, List.mem_append_left _ (List.mem_flatMap.mpr
      ⟨block, hblock, List.mem_append_left _ hmem⟩), hpart⟩

namespace Layout

theorem mem_bodyLines {es : List Entry} (he : e ∈ es) {line : String}
    (h : line ∈ e.lines l.separator) : line ∈ l.bodyLines es := by
  match es with
  | [last] => exact List.mem_singleton.mp he ▸ h
  | first :: next :: rest =>
    rw [bodyLines.eq_3 _ _ _ (by simp)]
    rcases List.mem_cons.mp he with rfl | he
    · exact List.mem_append_left _ h
    · exact List.mem_append_right _ (List.mem_cons_of_mem _ (mem_bodyLines he h))

theorem occurs_indentLine (l : Layout) (line : String) : Occurs line (l.indentLine line) := by
  rw [indentLine]
  split_ifs with hempty
  · exact hempty ▸ List.infix_rfl
  · exact occurs_append_right _ _

theorem occurs_render_of_header (h : Occurs part l.header) (es : List Entry) :
    Occurs part (l.render es) :=
  h.trans ((occurs_append_left _ _).trans (occurs_append_left _ _))

theorem occurs_render {es : List Entry} (he : e ∈ es) (h : e.Writes part) (hline : OneLine part) :
    Occurs part (l.render es) := by
  by_cases hne : part = ""
  · exact hne ▸ List.nil_infix
  obtain ⟨line, hmem, hpart⟩ := h.exists_line hline hne l.separator
  have hbody : Occurs (l.indentLine line) (unlines ((l.bodyLines es).map l.indentLine)) :=
    occurs_unlines (List.mem_map_of_mem (mem_bodyLines he hmem))
  exact (hpart.trans ((l.occurs_indentLine line).trans hbody)).trans
    ((occurs_append_right _ _).trans (occurs_append_left _ _))

end Layout

end

/-! ### Declarations of a target -/

theorem JavaScript.exists_call {i : Instrument} {text : String} (h : call i = .ok text) :
    ∃ rest, text = "new " ++ rest := by
  unfold call at h
  obtain ⟨cls, -, h⟩ := bind_eq_ok_iff.mp h
  obtain rfl := Except.ok.inj h
  simp only [String.append_assoc]
  exact ⟨_, rfl⟩

theorem Kotlin.occurs_constant {constants : List String} {key : String} (h : key ∈ constants)
    (name : String) : Occurs (indent ++ key) (enumClass name constants) :=
  (occurs_joinWith (List.mem_map_of_mem h)).trans
    ((occurs_append_right _ _).trans (occurs_append_left _ _))

theorem Swift.exists_indexedEnum (name rawType conformance : String) (keys : List String) :
    ∃ heading rest, indexedEnum name rawType conformance keys =
      "enum " ++ name ++ ": " ++ (heading ++ (unlines (keys.mapIdx caseLine) ++ rest)) := by
  refine ⟨rawType ++ ", " ++ conformance ++ " \x7b\n", ?_⟩
  unfold indexedEnum
  simp only [String.append_assoc]
  exact ⟨_, rfl⟩

theorem Swift.occurs_case {keys : List String} {key : String} (h : key ∈ keys)
    (name rawType conformance : String) :
    Occurs ("case " ++ camel key ++ " = ") (indexedEnum name rawType conformance keys) := by
  obtain ⟨position, hposition, rfl⟩ := List.mem_iff_getElem.mp h
  have hcase : Occurs ("case " ++ camel keys[position] ++ " = ") (caseLine position keys[position]) :=
    (occurs_between (suffix_append List.suffix_rfl _) List.prefix_rfl _).trans
      (occurs_append_left _ _)
  have hline : caseLine position keys[position] ∈ keys.mapIdx caseLine :=
    List.mem_mapIdx.mpr ⟨position, hposition, rfl⟩
  obtain ⟨heading, rest, hrest⟩ := exists_indexedEnum name rawType conformance keys
  rw [hrest]
  exact (hcase.trans (occurs_unlines hline)).trans
    ((occurs_append_left _ _).trans ((occurs_append_right _ _).trans (occurs_append_right _ _)))

namespace Target

/-- What stands before and after a name where it is declared: as a container, as a property, and as
the name or a constant of an enum. -/
def declarators : Target → List (String × String)
  | .javascript => [("const ", " = \x7b"), ("", ": new ")]
  | .kotlin _ => [("internal object ", " \x7b"), ("val ", ": "), ("enum class ", " \x7b"), ("    ", "")]
  | .swift _ => [("enum ", " \x7b"), ("static let ", " = "), ("enum ", ": "), ("case ", " = ")]

def Declares (t : Target) (text name : String) : Prop :=
  ∃ d ∈ t.declarators, Occurs (d.1 ++ name ++ d.2) text

theorem oneLine_declarators (t : Target) : ∀ d ∈ t.declarators, OneLine d.1 ∧ OneLine d.2 := by
  cases t <;> simp [declarators, OneLine]

theorem declares_header (t : Target) (u : OutputUnit) :
    t.Declares (t.layout u).header (t.unitName u.id) := by
  cases t with
  | javascript =>
    refine ⟨_, List.mem_cons_self, occurs_between ?_ (by decide) _⟩
    exact List.isSuffixOf_iff_suffix.mp (by decide)
  | kotlin k =>
    refine ⟨_, List.mem_cons_self, occurs_between ?_ (by decide) _⟩
    exact suffix_append (by decide) _
  | swift w =>
    refine ⟨_, List.mem_cons_self, occurs_between ?_ (by decide) _⟩
    exact suffix_append (by decide) _

/-- The entry of an instrument has a declaration for each of its names. -/
theorem declares_entry {t : Target} {i : Instrument} {e : Entry} (h : t.entry i = .ok e) :
    ∀ name ∈ t.entryNames i, ∃ d ∈ t.declarators, e.Writes (d.1 ++ name ++ d.2) := by
  rw [forall_entryNames_iff]
  cases t with
  | javascript =>
    obtain ⟨constructed, hcall, he⟩ := bind_eq_ok_iff.mp h
    obtain rfl := Except.ok.inj he
    obtain ⟨rest, rfl⟩ := JavaScript.exists_call hcall
    refine ⟨⟨("", ": new "), by simp [declarators], Or.inl ⟨[], rest.toList, ?_⟩⟩,
      fun keys _ name hname => absurd hname List.not_mem_nil⟩
    simp
  | kotlin k =>
    obtain rfl := Except.ok.inj h
    refine ⟨⟨("val ", ": "), by simp [declarators], Or.inl ?_⟩, fun keys hkeys => ?_⟩
    · exact (occurs_append_left _ _).trans (occurs_append_left _ _)
    · have hblock : Kotlin.enumClass (Kotlin.enumName i) keys ∈ (k.entry i).preamble := by
        simp [Kotlin.entry, hkeys]
      refine List.forall_mem_cons.mpr ⟨?_, fun key hkey => ?_⟩
      · refine ⟨("enum class ", " \x7b"), by simp [declarators], Or.inr ⟨_, hblock, ?_⟩⟩
        exact (occurs_between List.suffix_rfl (by decide) _).trans
          ((occurs_append_left _ _).trans (occurs_append_left _ _))
      · refine ⟨("    ", ""), by simp [declarators], Or.inr ⟨_, hblock, ?_⟩⟩
        rw [String.append_empty]
        exact Kotlin.occurs_constant hkey _
  | swift w =>
    obtain rfl := Except.ok.inj h
    refine ⟨⟨("static let ", " = "), by simp [declarators], Or.inl ?_⟩, fun keys hkeys => ?_⟩
    · exact occurs_append_left _ _
    · have hblock : Swift.indexedEnum (Swift.enumName i) (Swift.rawType i) (Swift.conformance i) keys ∈
          (w.entry i).preamble := by
        simp [Swift.entry, hkeys]
      refine List.forall_mem_cons.mpr ⟨?_, List.forall_mem_map.mpr fun key hkey => ?_⟩
      · refine ⟨("enum ", ": "), by simp [declarators], Or.inr ⟨_, hblock, ?_⟩⟩
        obtain ⟨heading, rest, hrest⟩ := Swift.exists_indexedEnum (Swift.enumName i)
          (Swift.rawType i) (Swift.conformance i) keys
        rw [hrest]
        exact occurs_append_left _ _
      · refine ⟨("case ", " = "), by simp [declarators], Or.inr ⟨_, hblock, ?_⟩⟩
        exact Swift.occurs_case hkey _ _ _

theorem oneLine_entryNames {p : Policy} {i : Instrument} (h : i.Admitted p) (t : Target) :
    ∀ name ∈ t.entryNames i, OneLine name := by
  rw [forall_entryNames_iff]
  refine ⟨oneLine_of_plain (plain_camel h.plain_name), fun keys hkeys => ?_⟩
  obtain ⟨maxLength, hadmits⟩ := h.keys hkeys
  have hplain : ∀ key ∈ keys, Plain key := fun key hkey => plain_of_isIdentifier (hadmits key hkey).grammar
  have hsuffix : OneLine i.enumSuffix := by cases i <;> simp [Instrument.enumSuffix, OneLine]
  cases t with
  | javascript => exact fun name hname => absurd hname List.not_mem_nil
  | kotlin k =>
    exact List.forall_mem_cons.mpr
      ⟨oneLine_append.mpr ⟨oneLine_of_plain (plain_camel h.plain_name), hsuffix⟩,
        fun key hkey => oneLine_of_plain (hplain key hkey)⟩
  | swift w =>
    exact List.forall_mem_cons.mpr
      ⟨oneLine_append.mpr ⟨oneLine_of_plain (plain_pascal h.plain_name), hsuffix⟩,
        List.forall_mem_map.mpr fun key hkey => oneLine_of_plain (plain_camel (hplain key hkey))⟩

/-- A rendered unit declares all its names. -/
theorem declares_renderUnit {p : Policy} {t : Target} {u : OutputUnit} {file : Document}
    (hadmitted : ∀ i ∈ u.instruments, i.Admitted p) (h : t.renderUnit u = .ok file) :
    ∀ name ∈ t.declared u, t.Declares file.contents name := by
  obtain ⟨entries, hentries, rfl⟩ := renderUnit_eq_ok_iff.mp h
  refine List.forall_mem_cons.mpr ⟨?_, List.forall_mem_flatMap.mpr fun i hi name hname => ?_⟩
  · obtain ⟨d, hd, hheader⟩ := t.declares_header u
    exact ⟨d, hd, Layout.occurs_render_of_header hheader entries⟩
  · obtain ⟨e, he, hentry⟩ := exists_mem_of_mapM hentries hi
    obtain ⟨d, hd, hwrites⟩ := declares_entry hentry name hname
    obtain ⟨hbefore, hafter⟩ := t.oneLine_declarators d hd
    have hline : OneLine (d.1 ++ name ++ d.2) := oneLine_append.mpr
      ⟨oneLine_append.mpr ⟨hbefore, oneLine_entryNames (hadmitted i hi) t name hname⟩, hafter⟩
    exact ⟨d, hd, Layout.occurs_render he hwrites hline⟩

end Target

/-- Every file that is compiled declares the names of its unit. -/
theorem declares_compile {registry : Registry} {documents : List SourceDocument}
    {targetName : String} {namespaces : Namespaces} {options : Options} {files : List Document}
    (h : compile registry documents targetName namespaces options = .ok files) :
    ∃ target model units, registry.create targetName namespaces = .ok target ∧
      unitsOf ⟨options, some target⟩ documents = .ok (model, units) ∧
      List.Forall₂ (fun u file => ∀ name ∈ target.declared u, target.Declares file.contents name)
        units files := by
  obtain ⟨target, model, units, htarget, hunits, hfiles⟩ := exists_units_of_compile h
  have hadmitted := admitted_of_unitsOf hunits
  refine ⟨target, model, units, htarget, hunits, ?_⟩
  obtain ⟨-, rfl, -, rfl⟩ := unitsOf_eq_ok_iff.mp hunits
  have hrendered := (List.forall₂_and_left _ _).mpr ⟨fun u hu => hu, mapM_eq_ok_iff.mp hfiles⟩
  refine hrendered.imp fun u file ⟨hu, hfile⟩ => ?_
  obtain ⟨j, -, rfl⟩ := mem_partition.mp hu
  exact Target.declares_renderUnit (fun i hi => hadmitted i (List.mem_filter.mp hi).1) hfile

end TelemetryBindings
