import TelemetryBindings.Proofs.ClearLayouts
import TelemetryBindings.Proofs.RedactedDocuments

/-!
# Free text does not reach the generated code

Documents that differ in their free text and their origins only compile to files that differ in
their comments only, or fail to compile together. Both are compared with the documents that keep no
free text at all: their instruments are declared in the same way, and all that is written of their
descriptions stands in comments.
-/
namespace TelemetryBindings

open Text

/-! ### Entries without free text -/

theorem MetricType.variant_redact (type : MetricType) : type.redact.variant = type.variant := by
  cases type <;> rfl

theorem MetricType.arguments_redact (type : MetricType) :
    type.redact.arguments = type.arguments := by
  cases type <;> rfl

theorem Metric.extraKeyNames?_redact (m : Metric) :
    m.redact.extraKeyNames? = m.extraKeyNames? := by
  rw [extraKeyNames?, extraKeyNames?, redact]
  cases m.type with
  | event extraKeys => exact congrArg some extraKeys.keys_blank
  | _ => rfl

namespace Instrument

theorem variant_redact (i : Instrument) : i.redact.variant = i.variant := by
  cases i with
  | metric m => exact m.type.variant_redact
  | ping q => rfl

theorem keys?_redact (i : Instrument) : i.redact.keys? = i.keys? := by
  cases i with
  | metric m => exact m.extraKeyNames?_redact
  | ping q => exact congrArg some q.reasons.keys_blank

theorem arguments_redact (i : Instrument) : i.redact.arguments = i.arguments := by
  cases i with
  | metric m => exact congrArg (m.commonArguments ++ ·) m.type.arguments_redact
  | ping q =>
    simp only [redact, arguments, Ping.arguments, Ping.redact, OrderedMap.keys_blank]

theorem appliedClass_redact (i : Instrument) (cls enumName : String) :
    i.redact.appliedClass cls enumName = i.appliedClass cls enumName := by
  have hkeyless : i.redact.keylessType = i.keylessType := by cases i <;> rfl
  rw [appliedClass, appliedClass, keys?_redact, hkeyless]

theorem enumKeys?_redact (i : Instrument) : i.redact.enumKeys? = i.enumKeys? := by
  rw [enumKeys?, enumKeys?, keys?_redact]

end Instrument

theorem JavaScript.call_redact (i : Instrument) : call i.redact = call i := by
  unfold call
  rw [i.variant_redact, i.arguments_redact]
  cases i with
  | metric m => simp only [Instrument.redact, m.extraKeyNames?_redact]
  | ping q => rfl

theorem JavaScript.entry_redact (i : Instrument) :
    entry i.redact = (entry i).map Entry.undescribed := by
  rw [entry, entry, call_redact]
  cases call i with
  | error cause => rfl
  | ok constructed => cases i <;> rfl

/-- Arguments of a metric that only some types have depend on its type and its names. -/
theorem Kotlin.extraArguments_redact (k : Kotlin) (m : Metric) :
    k.extraArguments m.redact = k.extraArguments m := by
  rw [extraArguments, extraArguments, Metric.redact]
  cases htype : m.type with
  | event extraKeys => simp only [MetricType.redact, OrderedMap.keys_blank]
  | _ => rfl

theorem Swift.extraArguments_redact (m : Metric) : extraArguments m.redact = extraArguments m := by
  rw [extraArguments, extraArguments, Metric.redact]
  cases m.type with
  | event extraKeys => simp only [MetricType.redact, OrderedMap.keys_blank]
  | _ => rfl

namespace Kotlin

variable (k : Kotlin) (i : Instrument)

theorem enumName_redact : enumName i.redact = enumName i := by
  cases i <;> rfl

theorem call_redact : k.call i.redact = k.call i := by
  have hvariant := i.variant_redact
  have harguments := i.arguments_redact
  cases i with
  | metric m =>
    simp only [Instrument.redact, Instrument.variant, Instrument.arguments] at hvariant harguments
    rw [Instrument.redact, call, call, metricCall, metricCall, k.extraArguments_redact, hvariant,
      harguments]
  | ping q =>
    simp only [Instrument.redact, Instrument.arguments] at harguments
    rw [Instrument.redact, call, call, pingCall, pingCall, harguments]

theorem propertyType_redact : k.propertyType i.redact = k.propertyType i := by
  rw [propertyType, propertyType, i.variant_redact, enumName_redact, i.appliedClass_redact]

theorem declaration_redact : k.declaration i.redact = k.declaration i := by
  have hcall := k.call_redact i
  have htype := k.propertyType_redact i
  unfold declaration
  rw [htype]
  cases i with
  | metric m =>
    simp only [Instrument.redact] at hcall ⊢
    rw [hcall]
    rfl
  | ping q =>
    simp only [Instrument.redact] at hcall ⊢
    rw [hcall]
    rfl

theorem entry_redact : k.entry i.redact = (k.entry i).undescribed := by
  rw [entry, entry, declaration_redact, i.enumKeys?_redact, enumName_redact]
  cases i <;> rfl

theorem mentioned_redact : k.mentioned i.redact = k.mentioned i := by
  unfold mentioned
  rw [i.variant_redact]
  cases i with
  | metric m =>
    have htype : k.argumentType? m.redact.type = k.argumentType? m.type := by
      rw [Metric.redact]
      cases m.type with
      | event extraKeys => simp only [MetricType.redact, argumentType?, OrderedMap.isEmpty_blank]
      | _ => rfl
    simp only [Instrument.redact, htype]
  | ping q => simp only [Instrument.redact, Ping.redact, OrderedMap.isEmpty_blank]

end Kotlin

namespace Swift

variable (w : Swift) (i : Instrument)

theorem enumName_redact : enumName i.redact = enumName i := by
  cases i <;> rfl

theorem constructor_redact : w.constructor i.redact = w.constructor i := by
  rw [constructor, constructor, i.variant_redact, enumName_redact, i.appliedClass_redact]

theorem call_redact : w.call i.redact = w.call i := by
  have hconstructor := w.constructor_redact i
  have harguments := i.arguments_redact
  cases i with
  | metric m =>
    simp only [Instrument.redact, Instrument.arguments] at hconstructor harguments ⊢
    simp only [call, hconstructor, harguments, extraArguments_redact]
    rw [Metric.redact]
    cases m.type <;> rfl
  | ping q =>
    simp only [Instrument.redact, Instrument.arguments] at hconstructor harguments ⊢
    rw [call, call, hconstructor, harguments]

theorem entry_redact : w.entry i.redact = (w.entry i).undescribed := by
  rw [entry, entry, call_redact, i.enumKeys?_redact, enumName_redact]
  cases i <;> rfl

end Swift

/-- An instrument without free text gives the same entry but for the description. -/
theorem Target.entry_redact (t : Target) (i : Instrument) :
    t.entry i.redact = (t.entry i).map Entry.undescribed := by
  cases t with
  | javascript => exact JavaScript.entry_redact i
  | kotlin k => exact congrArg Except.ok (k.entry_redact i)
  | swift w => exact congrArg Except.ok (w.entry_redact i)

/-! ### Files without comments -/

def Document.code (file : Document) : Document :=
  { file with contents := withoutComments file.contents }

/-- The file of a unit is the same without comments whether or not the unit has free text. -/
theorem Target.code_renderUnit_redact {t : Target} {u : OutputUnit} (hl : (t.layout u).Clear)
    (h : ∀ i ∈ u.instruments, i.PlainNames) :
    (t.renderUnit (u.map Instrument.redact)).map Document.code =
      (t.renderUnit u).map Document.code := by
  have hentries : (u.map Instrument.redact).instruments.mapM t.entry =
      (u.instruments.mapM t.entry).map (List.map Entry.undescribed) := by
    rw [OutputUnit.map, List.mapM_map, ← mapM_map_right]
    exact congrArg (u.instruments.mapM ·) (funext t.entry_redact)
  rw [renderUnit, renderUnit, hentries, t.layout_map u Kotlin.mentioned_redact, t.fileName_map]
  cases hmapM : u.instruments.mapM t.entry with
  | error cause => rfl
  | ok entries =>
    have hstarless : ∀ e ∈ entries, e.Starless :=
      forall_mem_of_mapM hmapM fun i hi _ => starless_entry (h i hi)
    have hcontents := Layout.withoutComments_render hl hstarless
    exact congrArg Except.ok (congrArg (Document.mk (t.fileName u)) hcontents.symm)

def Target.codes (t : Target) (is : List Instrument) :
    Except UnsupportedVariant (List Document) :=
  (partition is).mapM fun u => (t.renderUnit u).map Document.code

theorem Target.codes_redact {targetName : String} {namespaces : Namespaces} {t : Target}
    (hn : namespaces.Starless) (ht : Registry.builtin.create targetName namespaces = .ok t)
    {is : List Instrument} (h : ∀ i ∈ is, i.PlainNames) :
    t.codes (is.map Instrument.redact) = t.codes is := by
  rw [codes, codes, keepsPlace_redact.partition_map, List.mapM_map]
  refine mapM_congr_left fun u hu => ?_
  obtain ⟨i, hi, rfl⟩ := mem_partition.mp hu
  have hclear : (t.layout (unitOf is i.unitId)).Clear :=
    clear_layout hn ht (h i hi).unitId
  exact code_renderUnit_redact hclear fun j hj => h j (List.mem_filter.mp hj).1

/-- Without their comments, the files of a successful run are the codes of its units. -/
theorem map_code_compile_eq_some_iff {registry : Registry} {D : List SourceDocument}
    {targetName : String} {namespaces : Namespaces} {options : Options} {codes : List Document} :
    (compile registry D targetName namespaces options).toOption.map (List.map Document.code) =
        some codes ↔
      ∃ target, registry.create targetName namespaces = .ok target ∧
        Acceptable (findingsOf ⟨options, some target⟩ D) ∧
        Groupable (instrumentsOf ⟨options, some target⟩ D) ∧
        target.codes (instrumentsOf ⟨options, some target⟩ D) = .ok codes := by
  have hok : ∀ {ε : Type} {x : Except ε (List Document)},
      x.toOption.map (List.map Document.code) = some codes ↔
        ∃ files, x = .ok files ∧ files.map Document.code = codes := by
    intro ε x
    cases x <;> simp [Except.toOption]
  have hcodes : ∀ {ε : Type} {x : Except ε (List Document)},
      x.map (List.map Document.code) = .ok codes ↔
        ∃ files, x = .ok files ∧ files.map Document.code = codes := by
    intro ε x
    cases x <;> simp [Except.map]
  simp only [hok, compile_eq_ok_iff, Target.codes, mapM_map_right, hcodes]
  constructor
  · rintro ⟨files, ⟨target, htarget, ha, hg, hfiles⟩, rfl⟩
    exact ⟨target, htarget, ha, hg, files, hfiles, rfl⟩
  · rintro ⟨target, htarget, ha, hg, files, hfiles, rfl⟩
    exact ⟨files, ⟨target, htarget, ha, hg, hfiles⟩, rfl⟩

section

variable {D D' : List SourceDocument} {targetName : String} {namespaces : Namespaces}
  {options : Options}

/-- Without their comments, files are those of the documents without free text. -/
theorem compile_redact (hn : namespaces.Starless) :
    (compile .builtin (D.map .redact) targetName namespaces options).toOption.map
        (List.map Document.code) =
      (compile .builtin D targetName namespaces options).toOption.map
        (List.map Document.code) := by
  refine Option.ext fun codes => ?_
  rw [map_code_compile_eq_some_iff, map_code_compile_eq_some_iff]
  refine exists_congr fun target => and_congr_right fun htarget => ?_
  rw [acceptable_redact_iff]
  refine and_congr_right fun ha => ?_
  have hf := (acceptable_findingsOf_iff.mp ha).1
  have hf' := (acceptable_findingsOf_iff.mp (acceptable_redact_iff.mpr ha)).1
  have hinstruments := instrumentsOf_redact hf
  have hgroupable : Groupable (instrumentsOf ⟨options, some target⟩ (D.map .redact)) ↔
      Groupable (instrumentsOf ⟨options, some target⟩ D) := by
    rw [← keepsPlace_redact.groupable_map_iff, hinstruments, keepsPlace_redact.groupable_map_iff]
  have hcodes : target.codes (instrumentsOf ⟨options, some target⟩ (D.map .redact)) =
      target.codes (instrumentsOf ⟨options, some target⟩ D) := by
    rw [← Target.codes_redact hn htarget (plainNames_instrumentsOf hf'), hinstruments,
      Target.codes_redact hn htarget (plainNames_instrumentsOf hf)]
  rw [hgroupable, hcodes]

/-- Documents that are the same without their free text compile to files that are the same without
their comments, or neither compile. -/
theorem compile_freeText (hn : namespaces.Starless)
    (h : D.map SourceDocument.redact = D'.map SourceDocument.redact) :
    (compile .builtin D targetName namespaces options).toOption.map (List.map Document.code) =
      (compile .builtin D' targetName namespaces options).toOption.map
        (List.map Document.code) := by
  rw [← compile_redact hn, ← compile_redact (D := D') hn, h]

end

/-- An event and a ping with the given text in every place for free text. -/
def describedDocuments (text : String) : List SourceDocument :=
  [.ofEntries text .metrics [("nav.bar", .mapping [("opened", .mapping [("type", .string "event"),
      ("description", .string text), ("bugs", .list [.string text]),
      ("data_reviews", .list [.string text]), ("notification_emails", .list [.string text]),
      ("expires", .string "never"),
      ("extra_keys", .mapping [("source", .mapping [("description", .string text)])])])])],
    .ofEntries text .pings [("crash", .mapping [("description", .string text),
      ("include_client_id", .bool true), ("bugs", .list [.string text]),
      ("notification_emails", .list [.string text]),
      ("reasons", .mapping [("startup", .string text)])])]]

theorem redact_describedDocuments (text : String) :
    (describedDocuments text).map SourceDocument.redact =
      (describedDocuments "").map SourceDocument.redact := rfl

/-- A text that would end the comment it stands in if it were not escaped. -/
def unrulyText : String := "Ends */ here, /* begins\r\n*/*//*/*\r/**/ */ val x = 1"

theorem compile_freeText_unruly :
    ∃ files files', compile .builtin (describedDocuments unrulyText) "kotlin" {} {} = .ok files ∧
      compile .builtin (describedDocuments "") "kotlin" {} {} = .ok files' ∧ files ≠ files' ∧
      files.map Document.code = files'.map Document.code := by
  have hn : Namespaces.Starless {} := ⟨nofun, nofun⟩
  have hcode : (compile .builtin (describedDocuments unrulyText) "kotlin" {} {}).toOption.map
      (List.map Document.code) =
        (compile .builtin (describedDocuments "") "kotlin" {} {}).toOption.map
          (List.map Document.code) :=
    compile_freeText hn (redact_describedDocuments unrulyText)
  have hok : (compile .builtin (describedDocuments unrulyText) "kotlin" {} {}).isOk = true := by
    decide +kernel
  have hne : (compile .builtin (describedDocuments unrulyText) "kotlin" {} {}).toOption ≠
      (compile .builtin (describedDocuments "") "kotlin" {} {}).toOption := by decide +kernel
  cases h : compile .builtin (describedDocuments unrulyText) "kotlin" {} {} with
  | error e => simp [h, Except.isOk, Except.toBool] at hok
  | ok files =>
    cases h' : compile .builtin (describedDocuments "") "kotlin" {} {} with
    | error e => simp [h, h', Except.toOption] at hcode
    | ok files' =>
      rw [h, h'] at hcode hne
      exact ⟨files, files', rfl, rfl, fun he => hne (congrArg some he), Option.some.inj hcode⟩

end TelemetryBindings
