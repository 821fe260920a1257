import TelemetryBindings.Compile
import TelemetryBindings.Proofs.Definitions
import TelemetryBindings.Proofs.Units

/-!
# What compiling returns

Compiling succeeds exactly when the target is known, nothing is wrong with the documents, their
instruments can be divided into units, and the target can write every unit. It then returns one
file for every unit, in the order of the units.
-/
namespace TelemetryBindings

/-- All instruments that documents define, in the order in which they are placed into units. -/
def instrumentsOf (p : Policy) (documents : List SourceDocument) : List Instrument :=
  (modelOf (findingsOf p documents)).instruments

/-- Success without its value, or the error. -/
def verdict {ε α : Type} (x : Except ε α) : Except ε Unit := x.map fun _ => ()

theorem verdict_eq_ok_iff {ε α : Type} {x : Except ε α} : verdict x = .ok () ↔ ∃ a, x = .ok a := by
  cases x <;> simp [verdict, Except.map]

theorem mapError_eq_ok_iff {ε ε' α : Type} {f : ε → ε'} {x : Except ε α} {a : α} :
    x.mapError f = .ok a ↔ x = .ok a := by
  cases x <;> simp [Except.mapError]

theorem bind_eq_ok_iff {ε α β : Type} {x : Except ε α} {f : α → Except ε β} {b : β} :
    x >>= f = .ok b ↔ ∃ a, x = .ok a ∧ f a = .ok b := by
  cases x <;> simp [bind, Except.bind]

theorem mapM_eq_ok_iff {ε α β : Type} {f : α → Except ε β} {l : List α} {r : List β} :
    l.mapM f = .ok r ↔ List.Forall₂ (fun a b => f a = .ok b) l r := by
  induction l generalizing r with
  | nil => simp [pure, Except.pure, eq_comm]
  | cons a l ih =>
    rw [List.mapM_cons, bind_eq_ok_iff, List.forall₂_cons_left_iff]
    simp only [bind_eq_ok_iff, ih, pure, Except.pure, Except.ok.injEq]
    constructor
    · rintro ⟨b, hb, bs, hbs, rfl⟩
      exact ⟨b, bs, hb, hbs, rfl⟩
    · rintro ⟨b, bs, hb, hbs, rfl⟩
      exact ⟨b, hb, bs, hbs, rfl⟩

theorem exists_mapM {ε α β : Type} {f : α → Except ε β} {l : List α}
    (h : ∀ a ∈ l, ∃ b, f a = .ok b) : ∃ r, l.mapM f = .ok r := by
  induction l with
  | nil => exact ⟨[], rfl⟩
  | cons a l ih =>
    obtain ⟨⟨b, hb⟩, hl⟩ := List.forall_mem_cons.mp h
    obtain ⟨r, hr⟩ := ih hl
    exact ⟨b :: r, by rw [List.mapM_cons, hb, hr]; rfl⟩

theorem exists_mem_of_mapM {ε α β : Type} {f : α → Except ε β} {l : List α} {r : List β}
    (hr : l.mapM f = .ok r) {a : α} (ha : a ∈ l) : ∃ b ∈ r, f a = .ok b := by
  rw [mapM_eq_ok_iff] at hr
  induction hr with
  | nil => exact absurd ha List.not_mem_nil
  | @cons _ b _ _ hb _ ih =>
    rcases List.mem_cons.mp ha with rfl | ha
    · exact ⟨b, List.mem_cons_self, hb⟩
    · obtain ⟨b', hmem, hb'⟩ := ih ha
      exact ⟨b', List.mem_cons_of_mem _ hmem, hb'⟩

theorem forall_mem_of_mapM {ε α β : Type} {f : α → Except ε β} {l : List α} {r : List β}
    {P : β → Prop} (hr : l.mapM f = .ok r) (h : ∀ a ∈ l, ∀ b, f a = .ok b → P b) :
    ∀ b ∈ r, P b := by
  rw [mapM_eq_ok_iff] at hr
  induction hr with
  | nil => exact fun b hb => absurd hb List.not_mem_nil
  | cons hab _ ih =>
    obtain ⟨ha, hl⟩ := List.forall_mem_cons.mp h
    exact List.forall_mem_cons.mpr ⟨ha _ hab, ih hl⟩

theorem mapM_congr_left {ε α β : Type} {f g : α → Except ε β} {l : List α}
    (h : ∀ a ∈ l, f a = g a) : l.mapM f = l.mapM g := by
  induction l with
  | nil => rfl
  | cons a l ih =>
    obtain ⟨ha, hl⟩ := List.forall_mem_cons.mp h
    rw [List.mapM_cons, List.mapM_cons, ha, ih hl]

theorem mapM_map_right {ε α β γ : Type} (f : α → Except ε β) (g : β → γ) (l : List α) :
    l.mapM (fun a => (f a).map g) = (l.mapM f).map (List.map g) := by
  induction l with
  | nil => rfl
  | cons a l ih =>
    rw [List.mapM_cons, List.mapM_cons, ih]
    cases f a with
    | error e => rfl
    | ok b => cases l.mapM f <;> rfl

/-- Only the instruments decide how documents without problems fall into units. -/
theorem unitsOf_eq_ok_iff {p : Policy} {documents : List SourceDocument} {model : Model}
    {units : List OutputUnit} :
    unitsOf p documents = .ok (model, units) ↔
      Acceptable (findingsOf p documents) ∧ model = modelOf (findingsOf p documents) ∧
      Groupable (instrumentsOf p documents) ∧ units = partition (instrumentsOf p documents) := by
  simp only [unitsOf, bind_eq_ok_iff, mapError_eq_ok_iff, buildModel_eq_ok_iff, group_eq_ok_iff,
    pure, Except.pure, Except.ok.injEq, Prod.mk.injEq]
  constructor
  · rintro ⟨_, ⟨hfindings, rfl⟩, _, ⟨hgroup, rfl⟩, rfl, rfl⟩
    exact ⟨hfindings, rfl, hgroup, rfl⟩
  · rintro ⟨hfindings, rfl, hgroup, rfl⟩
    exact ⟨_, ⟨hfindings, rfl⟩, _, ⟨hgroup, rfl⟩, rfl, rfl⟩

theorem compile_eq_ok_iff {registry : Registry} {documents : List SourceDocument}
    {targetName : String} {namespaces : Namespaces} {options : Options} {files : List Document} :
    compile registry documents targetName namespaces options = .ok files ↔
      ∃ target, registry.create targetName namespaces = .ok target ∧
        Acceptable (findingsOf ⟨options, some target⟩ documents) ∧
        Groupable (instrumentsOf ⟨options, some target⟩ documents) ∧
        (partition (instrumentsOf ⟨options, some target⟩ documents)).mapM target.renderUnit =
          .ok files := by
  simp only [compile, bind_eq_ok_iff, mapError_eq_ok_iff]
  constructor
  · rintro ⟨target, htarget, ⟨model, units⟩, hunits, hfiles⟩
    obtain ⟨hfindings, -, hgroup, rfl⟩ := unitsOf_eq_ok_iff.mp hunits
    exact ⟨target, htarget, hfindings, hgroup, hfiles⟩
  · rintro ⟨target, htarget, hfindings, hgroup, hfiles⟩
    exact ⟨target, htarget, (_, _), unitsOf_eq_ok_iff.mpr ⟨hfindings, rfl, hgroup, rfl⟩, hfiles⟩

/-- What compiling returns are the units of the model that was built, each rendered. -/
theorem exists_units_of_compile {registry : Registry} {documents : List SourceDocument}
    {targetName : String} {namespaces : Namespaces} {options : Options} {files : List Document}
    (h : compile registry documents targetName namespaces options = .ok files) :
    ∃ target model units, registry.create targetName namespaces = .ok target ∧
      unitsOf ⟨options, some target⟩ documents = .ok (model, units) ∧
      units.mapM target.renderUnit = .ok files := by
  simp only [compile, bind_eq_ok_iff, mapError_eq_ok_iff] at h
  obtain ⟨target, htarget, ⟨model, units⟩, hunits, hfiles⟩ := h
  exact ⟨target, model, units, htarget, hunits, hfiles⟩

theorem Registry.create_builtin_eq_ok_iff {name : String} {namespaces : Namespaces}
    {target : Target} :
    builtin.create name namespaces = .ok target ↔
      name = "javascript" ∧ target = .javascript ∨
      name = "kotlin" ∧ target = .kotlin (.ofNamespaces namespaces) ∨
      name = "swift" ∧ target = .swift (.ofNamespaces namespaces) := by
  have hfactories : builtin.factories =
      [("javascript", javascript), ("kotlin", kotlin), ("swift", swift)] := by
    simp [builtin, register, assign, empty]
  rw [create, hfactories]
  by_cases hjs : name = "javascript"
  · subst hjs
    simp [javascript, eq_comm]
  · by_cases hkt : name = "kotlin"
    · subst hkt
      simp [List.lookup_cons, kotlin, eq_comm]
    · by_cases hsw : name = "swift"
      · subst hsw
        simp [List.lookup_cons, swift, eq_comm]
      · simp [List.lookup_cons, beq_eq_false_iff_ne.mpr hjs, beq_eq_false_iff_ne.mpr hkt,
          beq_eq_false_iff_ne.mpr hsw, hjs, hkt, hsw]

/-- What holds of a text and of its default holds of the one that is used. -/
theorem getD_of_forall_mem {P : String → Prop} {text : Option String} {default : String}
    (h : ∀ s ∈ text, P s) (hdefault : P default) : P (text.getD default) := by
  cases text with
  | none => exact hdefault
  | some s => exact h s rfl

theorem Target.renderUnit_eq_ok_iff {t : Target} {u : OutputUnit} {file : Document} :
    t.renderUnit u = .ok file ↔ ∃ entries, u.instruments.mapM t.entry = .ok entries ∧
      file = { fileName := t.fileName u, contents := (t.layout u).render entries } := by
  simp only [renderUnit, bind_eq_ok_iff, pure, Except.pure, Except.ok.injEq]
  simp only [eq_comm (a := file)]

/-- Every unit gives one file, under the name that the target has for the unit. -/
theorem Target.fileNames_eq {t : Target} {units : List OutputUnit} {files : List Document}
    (h : units.mapM t.renderUnit = .ok files) :
    files.map (·.fileName) = units.map t.fileName := by
  rw [mapM_eq_ok_iff] at h
  induction h with
  | nil => rfl
  | cons hfile _ ih =>
    obtain ⟨entries, -, rfl⟩ := renderUnit_eq_ok_iff.mp hfile
    rw [List.map_cons, List.map_cons, ih]

/-! ### The instruments of documents without problems -/

def Instrument.withoutOrigin : Instrument → Instrument
  | .metric m => .metric m.withoutOrigin
  | .ping q => .ping q.withoutOrigin

section

variable {p : Policy} {D : List SourceDocument}

theorem flawless_iff :
    (∀ d ∈ D, d.Flawless p) ↔ (∀ d ∈ D, d.WellShaped) ∧
      (∀ key ∈ D.flatMap SourceDocument.categoryKeys, p.categoryProblem? key = none) ∧
      (∀ t ∈ metricDefinitionsOf D, (p.metricReading t).problems = []) ∧
      ∀ e ∈ pingDefinitionsOf D, (p.pingReading e).problems = [] := by
  simp only [metricDefinitionsOf, pingDefinitionsOf, List.forall_mem_flatMap]
  constructor
  · intro h
    exact ⟨fun d hd => (h d hd).shape, fun d hd => (h d hd).categories,
      fun d hd => (h d hd).metrics, fun d hd => (h d hd).pings⟩
  · rintro ⟨hshape, hcategories, hmetrics, hpings⟩ d hd
    exact ⟨hshape d hd, hcategories d hd, hmetrics d hd, hpings d hd⟩

/-- The instruments of flawless documents, but for their origins, are what the definitions read
as. -/
theorem instrumentsOf_withoutOrigin (hf : ∀ d ∈ D, d.Flawless p) :
    (instrumentsOf p D).map Instrument.withoutOrigin =
      ((metricDefinitionsOf D).filterMap fun t => (p.metricReading t).value).map .metric ++
        ((pingDefinitionsOf D).filterMap fun e => (p.pingReading e).value).map .ping := by
  rw [← (holds_findingsOf hf).metrics, ← (holds_findingsOf hf).pings, instrumentsOf,
    Model.instruments, List.map_append]
  simp only [List.map_map]
  rfl

/-- What holds of everything that definitions read as, and does not look at origins, holds of all
instruments of flawless documents. -/
theorem forall_instrumentsOf {P : Instrument → Prop} (hf : ∀ d ∈ D, d.Flawless p)
    (horigin : ∀ i, P i.withoutOrigin → P i)
    (hmetric : ∀ t m, p.categoryProblem? t.1 = none → (p.metricReading t).problems = [] →
      (p.metricReading t).value = some m → P (.metric m))
    (hping : ∀ e q, (p.pingReading e).problems = [] → (p.pingReading e).value = some q →
      P (.ping q)) :
    ∀ i ∈ instrumentsOf p D, P i := by
  have hread : ∀ i ∈ (instrumentsOf p D).map Instrument.withoutOrigin, P i := by
    rw [instrumentsOf_withoutOrigin hf, List.forall_mem_append, List.forall_mem_map,
      List.forall_mem_map]
    refine ⟨fun m hm => ?_, fun q hq => ?_⟩
    · obtain ⟨t, ht, hvalue⟩ := List.mem_filterMap.mp hm
      exact hmetric t m (categoryProblem?_of_mem hf ht) ((flawless_iff.mp hf).2.2.1 t ht) hvalue
    · obtain ⟨e, he, hvalue⟩ := List.mem_filterMap.mp hq
      exact hping e q ((flawless_iff.mp hf).2.2.2 e he) hvalue
  exact fun i hi => horigin i (hread _ (List.mem_map_of_mem hi))

end

/-! ### What the text around the entries depends on -/

theorem Kotlin.layout_congr {k : Kotlin} {u v : OutputUnit} (himports : k.imports u = k.imports v)
    (hname : containerName u = containerName v) : k.layout u = k.layout v := by
  unfold layout
  rw [himports, hname]

variable {f : Instrument → Instrument}

theorem Target.fileName_map (t : Target) (u : OutputUnit) :
    t.fileName (u.map f) = t.fileName u := by
  cases t <;> rfl

/-- The text around the entries depends on the instruments through their imports only. -/
theorem Target.layout_map (t : Target) (u : OutputUnit)
    (h : ∀ (k : Kotlin) (i : Instrument), k.mentioned (f i) = k.mentioned i) :
    t.layout (u.map f) = t.layout u := by
  cases t with
  | kotlin k =>
    refine Kotlin.layout_congr ?_ rfl
    simp only [Kotlin.imports, OutputUnit.map, List.flatMap_map, h]
  | _ => rfl

end TelemetryBindings
