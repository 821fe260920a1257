import TelemetryBindings.Proofs.Arrangement

/-!
# Compiling part of the documents

Documents that share no category with the others, and no pings, can be compiled on their own: what
all documents together compile to is what both parts compile to, in the order of the units. The
units of one part are those of the whole with an identifier of that part, since a unit with
instruments of both would be formed of one category, or of pings.
-/
namespace TelemetryBindings

/-! ### Merging -/

theorem Text.sortedSet_eq_merge {xs ys zs : List String} (h : ∀ t, t ∈ zs ↔ t ∈ xs ∨ t ∈ ys)
    (hdisjoint : ∀ t ∈ xs, t ∉ ys) :
    sortedSet zs = (sortedSet xs).merge (sortedSet ys) (· ≤ ·) := by
  have hle : ((sortedSet xs).merge (sortedSet ys) (· ≤ ·)).SortedLE :=
    (List.Pairwise.merge (sortedLT_sortedSet xs).sortedLE.pairwise
      (sortedLT_sortedSet ys).sortedLE.pairwise).sortedLE
  have hnodup : ((sortedSet xs).merge (sortedSet ys) (· ≤ ·)).Nodup := by
    rw [(List.merge_perm_append _).nodup_iff]
    refine (sortedLT_sortedSet xs).nodup.append (sortedLT_sortedSet ys).nodup fun t ht ht' => ?_
    exact hdisjoint t (mem_sortedSet.mp ht) (mem_sortedSet.mp ht')
  refine (sortedLT_sortedSet zs).eq_of_mem_iff (hle.sortedLT_of_nodup hnodup) fun t => ?_
  rw [List.mem_merge, mem_sortedSet, mem_sortedSet, mem_sortedSet, h]

/-- Related lists are merged alike if their elements compare alike. -/
theorem forall₂_merge {α β : Type} {R : α → β → Prop} {le : α → α → Bool} {le' : β → β → Bool}
    (hle : ∀ a b a' b', R a b → R a' b' → le a a' = le' b b') {l l' : List α} {r r' : List β}
    (h : List.Forall₂ R l r) (h' : List.Forall₂ R l' r') :
    List.Forall₂ R (l.merge l' le) (r.merge r' le') := by
  induction h generalizing l' r' with
  | nil => simpa using h'
  | @cons a b l r hab hlr ih =>
    induction h' with
    | nil => simpa using List.Forall₂.cons hab hlr
    | @cons a' b' l' r' hab' hlr' ih' =>
      rw [List.cons_merge_cons, List.cons_merge_cons, hle a b a' b' hab hab']
      split
      · exact .cons hab (ih (.cons hab' hlr'))
      · exact .cons hab' ih'

theorem mapM_merge {ε α β : Type} {f : α → Except ε β} {le : α → α → Bool} {le' : β → β → Bool}
    (hle : ∀ a b a' b', f a = .ok b → f a' = .ok b' → le a a' = le' b b') {l l' : List α}
    {r r' : List β} (h : l.mapM f = .ok r) (h' : l'.mapM f = .ok r') :
    (l.merge l' le).mapM f = .ok (r.merge r' le') :=
  mapM_eq_ok_iff.mpr (forall₂_merge hle (mapM_eq_ok_iff.mp h) (mapM_eq_ok_iff.mp h'))

/-! ### Units of a part -/

/-- A unit is formed of the instruments with its identifier. -/
theorem unitOf_congr {is js : List Instrument} {id : String}
    (h : is.filter (·.unitId == id) = js.filter (·.unitId == id)) :
    unitOf is id = unitOf js id := by
  simp only [unitOf, ← List.head?_filter, h]

/-- The whole has the instruments of both parts, those of every unit in order, and no unit has
instruments of both. -/
structure Apart (is js ks : List Instrument) : Prop where
  units : ∀ id, ks.filter (·.unitId == id) =
    is.filter (·.unitId == id) ++ js.filter (·.unitId == id)
  disjoint : ∀ i ∈ is, ∀ j ∈ js, i.unitId ≠ j.unitId

namespace Apart

variable {is js ks : List Instrument}

theorem mem_iff (h : Apart is js ks) (i : Instrument) : i ∈ ks ↔ i ∈ is ∨ i ∈ js := by
  have hmem := congrArg (i ∈ ·) (h.units i.unitId)
  simpa [List.mem_filter] using hmem

theorem unitOf_left (h : Apart is js ks) {i : Instrument} (hi : i ∈ is) :
    unitOf ks i.unitId = unitOf is i.unitId := by
  refine unitOf_congr ?_
  have hnone : js.filter (·.unitId == i.unitId) = [] := List.filter_eq_nil_iff.mpr
    fun j hj hid => h.disjoint i hi j hj (beq_iff_eq.mp hid).symm
  rw [h.units, hnone, List.append_nil]

theorem unitOf_right (h : Apart is js ks) {j : Instrument} (hj : j ∈ js) :
    unitOf ks j.unitId = unitOf js j.unitId := by
  refine unitOf_congr ?_
  have hnone : is.filter (·.unitId == j.unitId) = [] := List.filter_eq_nil_iff.mpr
    fun i hi hid => h.disjoint i hi j hj (beq_iff_eq.mp hid)
  rw [h.units, hnone, List.nil_append]

/-- The units of the whole are those of the parts. -/
theorem partition_eq (h : Apart is js ks) :
    partition ks = (partition is).merge (partition js) fun u v => decide (u.id ≤ v.id) := by
  have hids : Text.sortedSet (ks.map (·.unitId)) =
      (Text.sortedSet (is.map (·.unitId))).merge (Text.sortedSet (js.map (·.unitId))) (· ≤ ·) := by
    refine Text.sortedSet_eq_merge (fun t => ?_) fun t ht ht' => ?_
    · simp only [List.mem_map, h.mem_iff, or_and_right, exists_or]
    · obtain ⟨i, hi, rfl⟩ := List.mem_map.mp ht
      obtain ⟨j, hj, hid⟩ := List.mem_map.mp ht'
      exact h.disjoint i hi j hj hid.symm
  have hleft : (Text.sortedSet (is.map (·.unitId))).map (unitOf ks) = partition is := by
    refine List.map_congr_left fun id hid => ?_
    obtain ⟨i, hi, rfl⟩ := List.mem_map.mp (Text.mem_sortedSet.mp hid)
    exact h.unitOf_left hi
  have hright : (Text.sortedSet (js.map (·.unitId))).map (unitOf ks) = partition js := by
    refine List.map_congr_left fun id hid => ?_
    obtain ⟨j, hj, rfl⟩ := List.mem_map.mp (Text.mem_sortedSet.mp hid)
    exact h.unitOf_right hj
  rw [← hleft, ← hright, partition, hids]
  exact List.map_merge fun _ _ _ _ => rfl

/-- What can be grouped can be grouped in parts. -/
theorem groupable (h : Apart is js ks) (hg : Groupable ks) : Groupable is ∧ Groupable js := by
  have hnames := hg.names
  simp only [h.partition_eq, List.mem_merge, or_imp, forall_and] at hnames
  refine ⟨⟨fun i hi j hj => ?_, hnames.1⟩, ⟨fun i hi j hj => ?_, hnames.2⟩⟩
  · exact hg.kinds i ((h.mem_iff i).mpr (.inl hi)) j ((h.mem_iff j).mpr (.inl hj))
  · exact hg.kinds i ((h.mem_iff i).mpr (.inr hi)) j ((h.mem_iff j).mpr (.inr hj))

end Apart

/-! ### Parts of the documents -/

theorem Acceptable.of_append {fs gs : List Finding} (h : Acceptable (fs ++ gs)) :
    Acceptable fs ∧ Acceptable gs := by
  obtain ⟨hfaultless, hmetrics, hpings⟩ := h
  rw [List.forall_mem_append] at hfaultless
  simp only [modelOf, List.filterMap_append, List.map_append] at hmetrics hpings
  exact ⟨⟨hfaultless.1, hmetrics.of_append_left, hpings.of_append_left⟩,
    ⟨hfaultless.2, hmetrics.of_append_right, hpings.of_append_right⟩⟩

structure SeparateDefinitions (A B : List SourceDocument) : Prop where
  categories : ∀ key ∈ A.flatMap SourceDocument.categoryKeys,
    key ∉ B.flatMap SourceDocument.categoryKeys
  pings : pingDefinitionsOf A = [] ∨ pingDefinitionsOf B = []

section

variable {p : Policy} {A B : List SourceDocument}

/-- Metrics of both parts stand before pings of both parts. -/
theorem instrumentsOf_append :
    instrumentsOf p (A ++ B) =
      ((modelOf (findingsOf p A)).metrics.map .metric ++
        (modelOf (findingsOf p B)).metrics.map .metric) ++
      ((modelOf (findingsOf p A)).pings.map .ping ++
        (modelOf (findingsOf p B)).pings.map .ping) := by
  rw [instrumentsOf, findingsOf_append]
  simp only [Model.instruments, modelOf, List.filterMap_append, List.map_append]

theorem mem_instrumentsOf_append {i : Instrument} :
    i ∈ instrumentsOf p (A ++ B) ↔ i ∈ instrumentsOf p A ∨ i ∈ instrumentsOf p B := by
  rw [instrumentsOf_append]
  simp only [instrumentsOf, Model.instruments, List.mem_append]
  exact or_or_or_comm

/-- If only one part has instruments of a kind, they keep their order. -/
theorem filter_instrumentsOf_append {q : Instrument → Bool}
    (hq : (∀ i ∈ instrumentsOf p A, q i = false) ∨ ∀ j ∈ instrumentsOf p B, q j = false) :
    (instrumentsOf p (A ++ B)).filter q =
      (instrumentsOf p A).filter q ++ (instrumentsOf p B).filter q := by
  have hnone : ∀ {l : List Instrument}, (∀ i ∈ l, q i = false) → l.filter q = [] :=
    fun h => List.filter_eq_nil_iff.mpr fun i hi => by simp [h i hi]
  rw [instrumentsOf_append]
  simp only [instrumentsOf, Model.instruments, List.forall_mem_append] at hq ⊢
  obtain ⟨hmetrics, hpings⟩ | ⟨hmetrics, hpings⟩ := hq <;>
    simp [List.filter_append, hnone hmetrics, hnone hpings]

/-- Every instrument comes from a definition: a metric from one under a key of a category, and a
ping from one of a ping. -/
theorem exists_definition {D : List SourceDocument} (hf : ∀ d ∈ D, d.Flawless p)
    {i : Instrument} (hi : i ∈ instrumentsOf p D) :
    (∃ t ∈ metricDefinitionsOf D, ∃ m, (p.metricReading t).value = some m ∧
      i.withoutOrigin = .metric m) ∨
    (∃ e ∈ pingDefinitionsOf D, ∃ q, (p.pingReading e).value = some q ∧
      i.withoutOrigin = .ping q) := by
  have hmem := List.mem_map_of_mem (f := Instrument.withoutOrigin) hi
  rw [instrumentsOf_withoutOrigin hf, List.mem_append, List.mem_map, List.mem_map] at hmem
  refine hmem.imp ?_ ?_
  · rintro ⟨m, hm, hmetric⟩
    obtain ⟨t, ht, hvalue⟩ := List.mem_filterMap.mp hm
    exact ⟨t, ht, m, hvalue, hmetric.symm⟩
  · rintro ⟨q, hq, hping⟩
    obtain ⟨e, he, hvalue⟩ := List.mem_filterMap.mp hq
    exact ⟨e, he, q, hvalue, hping.symm⟩

theorem categoryKey_of_mem {D : List SourceDocument} {t : String × String × Node}
    (ht : t ∈ metricDefinitionsOf D) : t.1 ∈ D.flatMap SourceDocument.categoryKeys := by
  obtain ⟨d, hd, ht⟩ := List.mem_flatMap.mp ht
  obtain ⟨e, he, ht⟩ := List.mem_flatMap.mp ht
  obtain ⟨n, -, rfl⟩ := List.mem_map.mp ht
  exact List.mem_flatMap.mpr ⟨d, hd, List.mem_map_of_mem he⟩

/-- A unit of both parts would be one of pings, or of a category with one key. -/
theorem SeparateDefinitions.unitId_ne (h : SeparateDefinitions A B)
    (hf : ∀ d ∈ A ++ B, d.Flawless p) (hk : KindsAgree (instrumentsOf p (A ++ B))) :
    ∀ i ∈ instrumentsOf p A, ∀ j ∈ instrumentsOf p B, i.unitId ≠ j.unitId := by
  intro i hi j hj hid
  have hkind : i.unitKind = j.unitKind :=
    hk i (mem_instrumentsOf_append.mpr (.inl hi)) j (mem_instrumentsOf_append.mpr (.inr hj)) hid
  rw [← keepsPlace_withoutOrigin.unitKind i, ← keepsPlace_withoutOrigin.unitKind j] at hkind
  have hdefinitions : metricDefinitionsOf (A ++ B) =
      metricDefinitionsOf A ++ metricDefinitionsOf B := List.flatMap_append
  obtain ⟨hfA, hfB⟩ := List.forall_mem_append.mp hf
  obtain ⟨t, ht, m, hm, him⟩ | ⟨e, he, q, hq, hiq⟩ := exists_definition hfA hi
  · obtain ⟨t', ht', n, hn, hjn⟩ | ⟨e, he, q, hq, hjq⟩ := exists_definition hfB hj
    · rw [him, hjn] at hkind
      have hkey := key_eq_of_unitKind hf (hdefinitions ▸ List.mem_append_left _ ht)
        (hdefinitions ▸ List.mem_append_right _ ht') hm hn hkind
      exact h.categories t.1 (categoryKey_of_mem ht) (hkey ▸ categoryKey_of_mem ht')
    · rw [him, hjq] at hkind
      exact absurd hkind m.unitKind_ne_pings
  · obtain ⟨t', ht', n, hn, hjn⟩ | ⟨e', he', -⟩ := exists_definition hfB hj
    · rw [hiq, hjn] at hkind
      exact absurd hkind.symm n.unitKind_ne_pings
    · obtain hnone | hnone := h.pings
      · rw [hnone] at he
        exact absurd he List.not_mem_nil
      · rw [hnone] at he'
        exact absurd he' List.not_mem_nil

theorem SeparateDefinitions.apart (h : SeparateDefinitions A B)
    (hf : ∀ d ∈ A ++ B, d.Flawless p) (hk : KindsAgree (instrumentsOf p (A ++ B))) :
    Apart (instrumentsOf p A) (instrumentsOf p B) (instrumentsOf p (A ++ B)) := by
  have hdisjoint := h.unitId_ne hf hk
  refine ⟨fun id => filter_instrumentsOf_append ?_, hdisjoint⟩
  by_cases hid : ∃ i ∈ instrumentsOf p A, i.unitId = id
  · obtain ⟨i, hi, rfl⟩ := hid
    exact .inr fun j hj => beq_eq_false_iff_ne.mpr (hdisjoint i hi j hj).symm
  · exact .inl fun i hi => beq_eq_false_iff_ne.mpr fun he => hid ⟨i, hi, he⟩

end

/-! ### Files of a part -/

def Target.renderById (t : Target) (u : OutputUnit) :
    Except UnsupportedVariant (String × Document) :=
  (t.renderUnit u).map (u.id, ·)

/-- As `compile`, with every file under the identifier of its unit. -/
def compileById (registry : Registry) (documents : List SourceDocument) (targetName : String)
    (namespaces : Namespaces) (options : Options) :
    Except CompileError (List (String × Document)) := do
  let target ← (registry.create targetName namespaces).mapError .unknownTarget
  let (_, units) ← unitsOf ⟨options, some target⟩ documents
  (units.mapM target.renderById).mapError .unsupportedVariant

theorem Target.id_of_renderById {t : Target} {u : OutputUnit} {file : String × Document}
    (h : t.renderById u = .ok file) : file.1 = u.id := by
  rw [renderById] at h
  cases hfile : t.renderUnit u with
  | error e => simp [hfile, Except.map] at h
  | ok f =>
    rw [hfile] at h
    exact Except.ok.inj h ▸ rfl

section

variable {registry : Registry} {documents A B : List SourceDocument} {targetName : String}
  {namespaces : Namespaces} {options : Options}

/-- Compiling forgets the identifiers. -/
theorem compile_eq_compileById :
    compile registry documents targetName namespaces options =
      (compileById registry documents targetName namespaces options).map (List.map (·.2)) := by
  have hunits : ∀ (target : Target) (units : List OutputUnit), units.mapM target.renderUnit =
      (units.mapM target.renderById).map (List.map (·.2)) := by
    intro target units
    rw [← mapM_map_right]
    refine mapM_congr_left fun u _ => ?_
    rw [Target.renderById]
    cases target.renderUnit u <;> rfl
  unfold compile compileById
  cases registry.create targetName namespaces with
  | error e => rfl
  | ok target =>
    simp only [Except.mapError, bind, Except.bind, hunits]
    cases unitsOf ⟨options, some target⟩ documents with
    | error e => rfl
    | ok built =>
      simp only
      cases built.2.mapM target.renderById <;> rfl

theorem compileById_eq_ok_iff {files : List (String × Document)} :
    compileById registry documents targetName namespaces options = .ok files ↔
      ∃ target, registry.create targetName namespaces = .ok target ∧
        Acceptable (findingsOf ⟨options, some target⟩ documents) ∧
        Groupable (instrumentsOf ⟨options, some target⟩ documents) ∧
        (partition (instrumentsOf ⟨options, some target⟩ documents)).mapM target.renderById =
          .ok files := by
  simp only [compileById, bind_eq_ok_iff, mapError_eq_ok_iff]
  constructor
  · rintro ⟨target, htarget, ⟨model, units⟩, hunits, hfiles⟩
    obtain ⟨hfindings, -, hgroup, rfl⟩ := unitsOf_eq_ok_iff.mp hunits
    exact ⟨target, htarget, hfindings, hgroup, hfiles⟩
  · rintro ⟨target, htarget, hfindings, hgroup, hfiles⟩
    exact ⟨target, htarget, (_, _), unitsOf_eq_ok_iff.mpr ⟨hfindings, rfl, hgroup, rfl⟩, hfiles⟩

/-- The identifiers of the files are distinct and ascend. -/
theorem compileById_ids_sortedLT {files : List (String × Document)}
    (h : compileById registry documents targetName namespaces options = .ok files) :
    (files.map (·.1)).SortedLT := by
  obtain ⟨target, -, -, -, hfiles⟩ := compileById_eq_ok_iff.mp h
  have hids : ∀ {units : List OutputUnit} {files : List (String × Document)},
      units.mapM target.renderById = .ok files → files.map (·.1) = units.map (·.id) := by
    intro units files hfiles
    rw [mapM_eq_ok_iff] at hfiles
    induction hfiles with
    | nil => rfl
    | cons hfile _ ih => rw [List.map_cons, List.map_cons, ih, Target.id_of_renderById hfile]
  rw [hids hfiles]
  exact sortedLT_ids_partition _

/-- The files of the whole are those of both parts, in the order of the identifiers. -/
theorem compileById_append (h : SeparateDefinitions A B) {files : List (String × Document)}
    (hfiles : compileById registry (A ++ B) targetName namespaces options = .ok files) :
    ∃ filesA filesB,
      compileById registry A targetName namespaces options = .ok filesA ∧
      compileById registry B targetName namespaces options = .ok filesB ∧
      files = filesA.merge filesB fun f g => decide (f.1 ≤ g.1) := by
  obtain ⟨target, htarget, ha, hg, hrender⟩ := compileById_eq_ok_iff.mp hfiles
  have hapart := h.apart (acceptable_findingsOf_iff.mp ha).1 hg.kinds
  obtain ⟨hgA, hgB⟩ := hapart.groupable hg
  rw [findingsOf_append] at ha
  obtain ⟨haA, haB⟩ := ha.of_append
  rw [hapart.partition_eq] at hrender
  obtain ⟨filesA, hA⟩ := exists_mapM fun u hu =>
    (exists_mem_of_mapM hrender (List.mem_merge.mpr (.inl hu))).imp fun _ => And.right
  obtain ⟨filesB, hB⟩ := exists_mapM fun u hu =>
    (exists_mem_of_mapM hrender (List.mem_merge.mpr (.inr hu))).imp fun _ => And.right
  refine ⟨filesA, filesB, compileById_eq_ok_iff.mpr ⟨target, htarget, haA, hgA, hA⟩,
    compileById_eq_ok_iff.mpr ⟨target, htarget, haB, hgB, hB⟩, ?_⟩
  have hmerge : ((partition (instrumentsOf ⟨options, some target⟩ A)).merge
      (partition (instrumentsOf ⟨options, some target⟩ B))
      fun u v => decide (u.id ≤ v.id)).mapM target.renderById =
      .ok (filesA.merge filesB fun f g => decide (f.1 ≤ g.1)) :=
    mapM_merge (fun u f v g hf hg => by
      rw [Target.id_of_renderById hf, Target.id_of_renderById hg]) hA hB
  exact Except.ok.inj (hrender.symm.trans hmerge)

/-- Documents without definitions in common compile on their own if they compile together, and
together they compile to the same files, merged in the order of the units. -/
theorem compile_append (h : SeparateDefinitions A B) {files : List Document}
    (hfiles : compile registry (A ++ B) targetName namespaces options = .ok files) :
    ∃ filesA filesB,
      compileById registry A targetName namespaces options = .ok filesA ∧
      compileById registry B targetName namespaces options = .ok filesB ∧
      compile registry A targetName namespaces options = .ok (filesA.map (·.2)) ∧
      compile registry B targetName namespaces options = .ok (filesB.map (·.2)) ∧
      files = (filesA.merge filesB fun f g => decide (f.1 ≤ g.1)).map (·.2) ∧
      ((filesA.merge filesB fun f g => decide (f.1 ≤ g.1)).map (·.1)).SortedLT := by
  rw [compile_eq_compileById] at hfiles
  cases hall : compileById registry (A ++ B) targetName namespaces options with
  | error e => simp [hall, Except.map] at hfiles
  | ok all =>
    obtain ⟨filesA, filesB, hA, hB, rfl⟩ := compileById_append h hall
    rw [hall] at hfiles
    refine ⟨filesA, filesB, hA, hB, ?_, ?_, (Except.ok.inj hfiles).symm,
      compileById_ids_sortedLT hall⟩
    · rw [compile_eq_compileById, hA]
      rfl
    · rw [compile_eq_compileById, hB]
      rfl

end

theorem separateDefinitions_scattered :
    SeparateDefinitions (scatteredDocuments.take 1) (scatteredDocuments.drop 1) where
  categories := by
    have htabs : (scatteredDocuments.take 1).flatMap SourceDocument.categoryKeys = ["tabs"] := by
      decide
    have hnavBar : (scatteredDocuments.drop 1).flatMap SourceDocument.categoryKeys =
        ["nav.bar", "nav.bar"] := by decide
    rw [htabs, hnavBar]
    decide
  pings := .inl rfl

theorem compile_append_scattered :
    ∃ (files : List Document) (filesA filesB : List (String × Document)),
      compile .builtin scatteredDocuments "kotlin" {} {} = .ok files ∧
      compile .builtin (scatteredDocuments.take 1) "kotlin" {} {} = .ok (filesA.map (·.2)) ∧
      compile .builtin (scatteredDocuments.drop 1) "kotlin" {} {} = .ok (filesB.map (·.2)) ∧
      files = (filesA.merge filesB fun f g => decide (f.1 ≤ g.1)).map (·.2) := by
  have hok : (compile .builtin scatteredDocuments "kotlin" {} {}).isOk = true := by
    decide +kernel
  have hsplit : scatteredDocuments.take 1 ++ scatteredDocuments.drop 1 = scatteredDocuments :=
    List.take_append_drop 1 scatteredDocuments
  obtain ⟨files, h⟩ := exists_eq_ok_of_isOk hok
  obtain ⟨filesA, filesB, -, -, hA, hB, hfiles, -⟩ :=
    compile_append separateDefinitions_scattered (hsplit.symm ▸ h)
  exact ⟨files, filesA, filesB, h, hA, hB, hfiles⟩

end TelemetryBindings
