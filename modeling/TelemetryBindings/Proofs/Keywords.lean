import TelemetryBindings.Proofs.DeclaredNames

/-!
# Declared names are no keywords

Unless reserved names are allowed, validation refuses a name that is a keyword of the target as it
stands, in camel case or capitalised. Generated code writes some names in other spellings: it
capitalises categories that are in camel case already, and it puts endings to the names of enums.
None of these gives a keyword that validation did not look for.
-/
namespace TelemetryBindings

namespace Target

theorem forall_reservedWords {f : String → Bool} (hjs : JavaScript.reservedWords.all f)
    (hkt : Kotlin.reservedWords.all f) (hsw : Swift.reservedWords.all f) (t : Target) :
    ∀ w ∈ t.reservedWords, f w := by
  rw [← List.all_eq_true]
  cases t with
  | javascript => exact hjs
  | kotlin k => exact hkt
  | swift w => exact hsw

/-- A keyword is a letter and then no capitals. -/
theorem capitals_reservedWords (t : Target) {w : String} (hw : w ∈ t.reservedWords) :
    ∃ c cs, w.toList = c :: cs ∧ c.isAlpha ∧ ∀ d ∈ cs, ¬ d.isUpper := by
  have hall : ∀ w ∈ t.reservedWords,
      w.toList.head?.any Char.isAlpha && w.toList.tail.all fun d => !d.isUpper :=
    t.forall_reservedWords (by decide) (by decide) (by decide)
  have h := hall w hw
  cases hchars : w.toList with
  | nil => simp [hchars] at h
  | cons c cs =>
    rw [hchars] at h
    obtain ⟨hc, hcs⟩ := Bool.and_eq_true_iff.mp h
    exact ⟨c, cs, rfl, hc, fun d hd => by simpa using List.all_eq_true.mp hcs d hd⟩

/-- No keyword ends as the names of enums do. -/
theorem not_isSuffix_reservedWords (t : Target) (i : Instrument) {w : String}
    (hw : w ∈ t.reservedWords) : ¬ i.enumSuffix.toList <:+ w.toList := by
  have hall : ∀ w ∈ t.reservedWords,
      !"Keys".toList.isSuffixOf w.toList && !"ReasonCodes".toList.isSuffixOf w.toList :=
    t.forall_reservedWords (by decide) (by decide) (by decide)
  have h := hall w hw
  rw [Bool.and_eq_true, Bool.not_eq_true', Bool.not_eq_true'] at h
  intro hsuffix
  rw [← List.isSuffixOf_iff_suffix] at hsuffix
  cases i with
  | metric m => exact absurd hsuffix (Bool.eq_false_iff.mp h.1)
  | ping q => exact absurd hsuffix (Bool.eq_false_iff.mp h.2)

/-- The units that belong to no named category have names of their own. -/
theorem unitName_fixed_notMem (t : Target) {id : String} (hid : id = internalUnitId ∨ id = pingsUnitId) :
    t.unitName id ∉ t.reservedWords := by
  have hall : ∀ w ∈ t.reservedWords, !List.contains [internalUnitId, pingsUnitId,
      Text.pascal internalUnitId, Text.pascal pingsUnitId] w :=
    t.forall_reservedWords (by decide) (by decide) (by decide)
  intro hmem
  have h := hall _ hmem
  rcases t.unitName_eq id with hname | hname <;> rw [hname] at h <;>
    rcases hid with rfl | rfl <;> simp at h

end Target

/-- A target reserves none of the spellings of a name that is no keyword. -/
theorem Policy.spellings_notMem {options : Options} {t : Target} {name : String}
    (h : (⟨options, some t⟩ : Policy).isKeyword name = false) :
    name ∉ t.reservedWords ∧ Text.camel name ∉ t.reservedWords ∧
      Text.pascal name ∉ t.reservedWords := by
  simpa [isKeyword, spellings] using h

namespace Instrument.Admitted

variable {p : Policy} {i : Instrument}

theorem isKeyword_name (h : i.Admitted p) (hp : p.options.allowReserved = false) :
    p.isKeyword i.name = false := by
  cases i with
  | metric m =>
    have hname := (Metric.Admitted.name h).unreserved
    rwa [Policy.reserves, hp, Bool.not_false, Bool.true_and] at hname
  | ping q =>
    have hname := Ping.Admitted.unreserved h
    rw [Policy.reservesPing, hp, Bool.not_false, Bool.true_and, Bool.or_eq_false_iff] at hname
    exact hname.2

theorem isKeyword_category (h : i.Admitted p) (hp : p.options.allowReserved = false)
    {category : String} (hcategory : i.category? = some category) :
    p.isKeyword category = false := by
  have hproblem := (h.category hcategory).1
  rw [Policy.categoryProblem?] at hproblem
  split_ifs at hproblem with _ hreserved
  rw [Policy.reservesCategory, hp, Bool.not_false, Bool.true_and, Bool.or_eq_true, not_or] at hreserved
  exact Bool.eq_false_iff.mpr hreserved.2

theorem isKeyword_keys (h : i.Admitted p) (hp : p.options.allowReserved = false)
    {keys : List String} (hkeys : i.enumKeys? = some keys) : ∀ key ∈ keys, p.isKeyword key = false := by
  obtain ⟨maxLength, hadmits⟩ := h.keys hkeys
  intro key hkey
  have hunreserved := (hadmits key hkey).unreserved
  rwa [Policy.reserves, hp, Bool.not_false, Bool.true_and] at hunreserved

end Instrument.Admitted

section

variable {options : Options} {t : Target} {i : Instrument}

/-- The name of a container is no keyword, though its category is respelled twice. -/
theorem unitName_notMem_reservedWords (h : i.Admitted ⟨options, some t⟩)
    (hoptions : options.allowReserved = false) : t.unitName i.unitId ∉ t.reservedWords := by
  cases hcategory : i.category? with
  | none =>
    exact t.unitName_fixed_notMem (Instrument.Admitted.unitId_of_no_category hcategory)
  | some category =>
    obtain ⟨-, hcamel, hpascal⟩ := Policy.spellings_notMem (h.isKeyword_category hoptions hcategory)
    rw [(h.category hcategory).2]
    rcases t.unitName_eq (Text.camel category) with hname | hname
    · rwa [hname]
    · rw [hname]
      intro hmem
      obtain ⟨c, cs, hchars, hc, hcs⟩ := t.capitals_reservedWords hmem
      have hascii := (h.plain_category hcategory).ascii
      rw [Text.pascal_camel_of_no_capitals hascii hchars hc hcs] at hmem
      exact hpascal hmem

theorem append_enumSuffix_notMem_reservedWords (name : String) :
    name ++ i.enumSuffix ∉ t.reservedWords := by
  intro hmem
  apply t.not_isSuffix_reservedWords i hmem
  rw [String.toList_append]
  exact List.suffix_append _ _

/-- No name in the entry of an instrument is a keyword. -/
theorem entryNames_notMem_reservedWords (h : i.Admitted ⟨options, some t⟩)
    (hoptions : options.allowReserved = false) : ∀ name ∈ t.entryNames i, name ∉ t.reservedWords := by
  rw [Target.forall_entryNames_iff]
  refine ⟨(Policy.spellings_notMem (h.isKeyword_name hoptions)).2.1, fun keys hkeys => ?_⟩
  have hspellings := fun key hkey => Policy.spellings_notMem (h.isKeyword_keys hoptions hkeys key hkey)
  cases t with
  | javascript => simp [Target.enumNames]
  | kotlin k =>
    refine List.forall_mem_cons.mpr ⟨append_enumSuffix_notMem_reservedWords _, ?_⟩
    exact fun key hkey => (hspellings key hkey).1
  | swift w =>
    refine List.forall_mem_cons.mpr ⟨append_enumSuffix_notMem_reservedWords _, ?_⟩
    exact List.forall_mem_map.mpr fun key hkey => (hspellings key hkey).2.1

end

/-- Unless reserved names are allowed, nothing that is compiled declares a keyword of its target. -/
theorem declared_notMem_reservedWords {registry : Registry} {documents : List SourceDocument}
    {targetName : String} {namespaces : Namespaces} {options : Options} {files : List Document}
    (h : compile registry documents targetName namespaces options = .ok files)
    (hoptions : options.allowReserved = false) :
    ∃ target model units, registry.create targetName namespaces = .ok target ∧
      unitsOf ⟨options, some target⟩ documents = .ok (model, units) ∧
      units.mapM target.renderUnit = .ok files ∧
      ∀ u ∈ units, ∀ name ∈ target.declared u, name ∉ target.reservedWords := by
  obtain ⟨target, model, units, htarget, hunits, hfiles⟩ := exists_units_of_compile h
  have hadmitted := admitted_of_unitsOf hunits
  refine ⟨target, model, units, htarget, hunits, hfiles, ?_⟩
  obtain ⟨-, rfl, -, rfl⟩ := unitsOf_eq_ok_iff.mp hunits
  rw [instrumentsOf, Target.forall_declared_iff]
  intro i hi
  exact ⟨unitName_notMem_reservedWords (hadmitted i hi) hoptions,
    entryNames_notMem_reservedWords (hadmitted i hi) hoptions⟩

/-- Beside instruments with keys, a category and a metric that spell keywords but for their case. -/
def caselessDocuments : List SourceDocument :=
  .ofEntries "n.yaml" .metrics [("a.ny", .mapping [("re_turn", sampleCounter "Returns.")])] ::
    keyedDocuments

theorem declared_notMem_reservedWords_caseless :
    ({} : Options).allowReserved = false ∧
    ∃ files target model units, compile .builtin caselessDocuments "swift" {} {} = .ok files ∧
      Registry.builtin.create "swift" {} = .ok target ∧
      unitsOf ⟨{}, some target⟩ caselessDocuments = .ok (model, units) ∧
      ∀ u ∈ units, ∀ name ∈ target.declared u, name ∉ target.reservedWords := by
  refine ⟨rfl, ?_⟩
  obtain ⟨files, hfiles⟩ : ∃ files, compile .builtin caselessDocuments "swift" {} {} = .ok files :=
    verdict_eq_ok_iff.mp (by set_option maxRecDepth 4000 in decide)
  obtain ⟨target, model, units, htarget, hunits, -, hnames⟩ :=
    declared_notMem_reservedWords hfiles rfl
  exact ⟨files, target, model, units, hfiles, htarget, hunits, hnames⟩

end TelemetryBindings
