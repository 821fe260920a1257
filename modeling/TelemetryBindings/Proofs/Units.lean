import Mathlib.Data.List.Nodup
import TelemetryBindings.Grouping
import TelemetryBindings.Proofs.SortedSet

/-!
# Partition into units

Grouping succeeds exactly when no unit identifier is claimed by two categories, or by a category
and the pings, and no two instruments of a unit have one name in generated code. The units are then
the partition of all instruments by their unit identifier, in ascending order of the identifiers,
with the instruments of each unit in declaration order.
-/
namespace TelemetryBindings

namespace Instrument

def unitId : Instrument → String
  | .metric m => TelemetryBindings.unitId m.category
  | .ping _ => pingsUnitId

def unitKind : Instrument → UnitKind
  | .metric m => m.unitKind
  | .ping _ => .pings

end Instrument

/-- All instruments in the order in which they are placed into units. -/
def Model.instruments (model : Model) : List Instrument :=
  model.metrics.map .metric ++ model.pings.map .ping

/-- Instruments with one unit identifier come from one category, or are all pings. -/
def KindsAgree (is : List Instrument) : Prop :=
  ∀ i ∈ is, ∀ j ∈ is, i.unitId = j.unitId → i.unitKind = j.unitKind

/-- The unit of the instruments with a unit identifier; its kind is that of the first of them. -/
def unitOf (is : List Instrument) (id : String) : OutputUnit where
  id := id
  kind := ((is.find? (·.unitId == id)).map (·.unitKind)).getD .pings
  instruments := is.filter (·.unitId == id)

def partition (is : List Instrument) : List OutputUnit :=
  (Text.sortedSet (is.map (·.unitId))).map (unitOf is)

def placeInstrument (units : List OutputUnit) (i : Instrument) :
    Except GroupingError (List OutputUnit) :=
  place i.unitId i.unitKind [i] units

/-! ### Placing into an ascending list of units -/

/-- Placing under an identifier that is in use extends its unit, if the kinds are the same. -/
theorem place_of_mem {f : String → OutputUnit} (hf : ∀ id, (f id).id = id) {id : String}
    {kind : UnitKind} {new : List Instrument} {ids : List String} (hs : ids.SortedLT)
    (hid : id ∈ ids) (hk : (f id).kind = kind) :
    place id kind new (ids.map f) = .ok (ids.map fun j =>
      if j = id then ⟨id, kind, (f id).instruments ++ new⟩ else f j) := by
  rw [List.sortedLT_iff_pairwise] at hs
  induction ids with
  | nil => simp at hid
  | cons x xs ih =>
    obtain ⟨hx, hxs⟩ := List.pairwise_cons.mp hs
    rw [List.map_cons, place, hf]
    rcases List.mem_cons.mp hid with rfl | hid
    · have hrest : ∀ j ∈ xs,
          f j = if j = id then ⟨id, kind, (f id).instruments ++ new⟩ else f j := by
        intro j hj
        rw [if_neg (hx j hj).ne']
      simp only [lt_irrefl, if_false, if_true, hk, List.map_cons]
      rw [List.map_congr_left hrest]
    · have hlt : x < id := hx id hid
      rw [if_neg hlt.asymm, if_neg hlt.ne', ih hxs hid]
      simp [bind, Except.bind, pure, Except.pure, hlt.ne]

/-- Placing under an identifier of another kind is a collision. -/
theorem place_collision {f : String → OutputUnit} (hf : ∀ id, (f id).id = id) {id : String}
    {kind : UnitKind} {new : List Instrument} {ids : List String} (hs : ids.SortedLT)
    (hid : id ∈ ids) (hk : (f id).kind ≠ kind) :
    place id kind new (ids.map f) =
      .error (.unitCollision id (f id).kind.sourceName kind.sourceName) := by
  rw [List.sortedLT_iff_pairwise] at hs
  induction ids with
  | nil => simp at hid
  | cons x xs ih =>
    obtain ⟨hx, hxs⟩ := List.pairwise_cons.mp hs
    rw [List.map_cons, place, hf]
    rcases List.mem_cons.mp hid with rfl | hid
    · simp [hk]
    · have hlt : x < id := hx id hid
      rw [if_neg hlt.asymm, if_neg hlt.ne', ih hxs hid]
      rfl

/-- Placing under a new identifier adds a unit at its place in the order. -/
theorem place_of_notMem {f : String → OutputUnit} (hf : ∀ id, (f id).id = id) {id : String}
    {kind : UnitKind} {new : List Instrument} {ids : List String} (hs : ids.SortedLT)
    (hid : id ∉ ids) :
    place id kind new (ids.map f) = .ok ((Text.insertSorted id ids).map fun j =>
      if j = id then ⟨id, kind, new⟩ else f j) := by
  rw [List.sortedLT_iff_pairwise] at hs
  induction ids with
  | nil => simp [place, Text.insertSorted]
  | cons x xs ih =>
    obtain ⟨hx, hxs⟩ := List.pairwise_cons.mp hs
    obtain ⟨hne, hid⟩ := not_or.mp (mt List.mem_cons.mpr hid)
    have hrest : ∀ j ∈ x :: xs, f j = if j = id then ⟨id, kind, new⟩ else f j := by
      intro j hj
      rw [if_neg]
      rintro rfl
      rcases List.mem_cons.mp hj with h | h
      · exact hne h
      · exact hid h
    rw [List.map_cons, place, hf, Text.insertSorted]
    split_ifs with hlt
    · rw [← List.map_cons, List.map_congr_left hrest]
      simp
    · rw [ih hxs hid, List.map_cons, ← hrest x List.mem_cons_self]
      rfl

theorem place_append (id : String) (kind : UnitKind) (xs ys : List Instrument)
    (units : List OutputUnit) :
    place id kind (xs ++ ys) units = place id kind xs units >>= place id kind ys := by
  induction units with
  | nil => simp [place, bind, Except.bind]
  | cons u us ih =>
    simp only [place]
    split_ifs with hlt heq hk
    · simp [bind, Except.bind, place]
    · subst heq
      simp [bind, Except.bind, place, hk]
    · rfl
    · rw [ih]
      cases place id kind xs us with
      | error e => rfl
      | ok rest =>
        simp only [bind, Except.bind, pure, Except.pure, place, if_neg hlt, if_neg heq]

/-! ### Placing instrument by instrument -/

@[simp] theorem unitOf_id (is : List Instrument) (id : String) : (unitOf is id).id = id := rfl

/-- The first instrument of a unit decides its kind. -/
theorem unitOf_kind {is : List Instrument} (hk : KindsAgree is) {i : Instrument} (hi : i ∈ is) :
    (unitOf is i.unitId).kind = i.unitKind := by
  have hsome : (is.find? (·.unitId == i.unitId)).isSome := by
    rw [List.find?_isSome]
    exact ⟨i, hi, by simp⟩
  obtain ⟨j, hj⟩ := Option.isSome_iff_exists.mp hsome
  have hid : j.unitId = i.unitId := by simpa using List.find?_some hj
  simp only [unitOf, hj, Option.map_some, Option.getD_some]
  exact hk j (List.mem_of_find?_eq_some hj) i hi hid

theorem unitOf_append_same (is : List Instrument) (i : Instrument)
    (h : ∃ j ∈ is, j.unitId = i.unitId) :
    unitOf (is ++ [i]) i.unitId =
      ⟨i.unitId, (unitOf is i.unitId).kind, (unitOf is i.unitId).instruments ++ [i]⟩ := by
  have hsome : (is.find? (·.unitId == i.unitId)).isSome := by
    rw [List.find?_isSome]
    obtain ⟨j, hj, hid⟩ := h
    exact ⟨j, hj, by simp [hid]⟩
  obtain ⟨j, hj⟩ := Option.isSome_iff_exists.mp hsome
  simp [unitOf, List.find?_append, hj]

theorem unitOf_append_new (is : List Instrument) (i : Instrument)
    (h : ∀ j ∈ is, j.unitId ≠ i.unitId) :
    unitOf (is ++ [i]) i.unitId = ⟨i.unitId, i.unitKind, [i]⟩ := by
  have hnone : is.find? (·.unitId == i.unitId) = none := by
    rw [List.find?_eq_none]
    intro j hj
    simpa using h j hj
  have hfilter : is.filter (·.unitId == i.unitId) = [] := by
    rw [List.filter_eq_nil_iff]
    intro j hj
    simpa using h j hj
  simp [unitOf, List.find?_append, hnone, hfilter]

theorem unitOf_append_other (is : List Instrument) (i : Instrument) {id : String}
    (h : id ≠ i.unitId) : unitOf (is ++ [i]) id = unitOf is id := by
  have hne : (i.unitId == id) = false := by simpa using h.symm
  simp [unitOf, List.find?_append, hne]

theorem partition_append_singleton (is : List Instrument) (i : Instrument) :
    partition (is ++ [i]) =
      (Text.insertSorted i.unitId (Text.sortedSet (is.map (·.unitId)))).map
        (unitOf (is ++ [i])) := by
  rw [partition, List.map_append, List.map_singleton, Text.sortedSet_append_singleton]

theorem KindsAgree.of_append {is js : List Instrument} (h : KindsAgree (is ++ js)) :
    KindsAgree is :=
  fun i hi j hj => h i (List.mem_append_left _ hi) j (List.mem_append_left _ hj)

/-- One instrument and a later one have one unit identifier but come from different categories, and
the error names both of them. -/
def ReportsKinds (is : List Instrument) (e : GroupingError) : Prop :=
  ∃ i j, [i, j].Sublist is ∧ i.unitId = j.unitId ∧ i.unitKind ≠ j.unitKind ∧
    e = .unitCollision j.unitId i.unitKind.sourceName j.unitKind.sourceName

theorem ReportsKinds.append {is : List Instrument} {e : GroupingError} (h : ReportsKinds is e)
    (js : List Instrument) : ReportsKinds (is ++ js) e := by
  obtain ⟨i, j, hsub, h⟩ := h
  exact ⟨i, j, hsub.trans (List.sublist_append_left is js), h⟩

/-- One more instrument keeps the partition, or meets a unit of another kind. -/
theorem placeInstrument_partition {is : List Instrument} (hk : KindsAgree is) (i : Instrument) :
    (KindsAgree (is ++ [i]) →
      placeInstrument (partition is) i = .ok (partition (is ++ [i]))) ∧
    (¬ KindsAgree (is ++ [i]) →
      ∃ e, placeInstrument (partition is) i = .error e ∧ ReportsKinds (is ++ [i]) e) := by
  have hs := Text.sortedLT_sortedSet (is.map (·.unitId))
  by_cases hin : ∃ j ∈ is, j.unitId = i.unitId
  · obtain ⟨j, hj, hid⟩ := hin
    have hmem : i.unitId ∈ Text.sortedSet (is.map (·.unitId)) := by
      rw [Text.mem_sortedSet, ← hid]
      exact List.mem_map_of_mem hj
    have hkind : (unitOf is i.unitId).kind = j.unitKind := hid ▸ unitOf_kind hk hj
    constructor
    · intro h
      have hsame : (unitOf is i.unitId).kind = i.unitKind :=
        hkind.trans (h j (by simp [hj]) i (by simp) hid)
      rw [placeInstrument, partition, place_of_mem (unitOf_id is) hs hmem hsame,
        partition_append_singleton, Text.insertSorted_of_mem hs hmem]
      congr 1
      apply List.map_congr_left
      intro id _
      by_cases he : id = i.unitId
      · rw [he, if_pos rfl, unitOf_append_same is i ⟨j, hj, hid⟩, hsame]
      · rw [if_neg he, unitOf_append_other is i he]
    · intro h
      have hother : j.unitKind ≠ i.unitKind := by
        intro hsame
        refine h fun a ha b hb hab => ?_
        simp only [List.mem_append, List.mem_singleton] at ha hb
        rcases ha with ha | rfl <;> rcases hb with hb | rfl
        · exact hk a ha b hb hab
        · exact (hk a ha j hj (hab.trans hid.symm)).trans hsame
        · exact hsame.symm.trans (hk j hj b hb (hid.trans hab))
        · rfl
      refine ⟨_, place_collision (unitOf_id is) hs hmem (hkind ▸ hother), j, i, ?_, hid, hother, ?_⟩
      · exact (List.singleton_sublist.mpr hj).append (List.Sublist.refl [i])
      · rw [hkind]
  · have hnew : ∀ j ∈ is, j.unitId ≠ i.unitId := fun j hj hid => hin ⟨j, hj, hid⟩
    have hmem : i.unitId ∉ Text.sortedSet (is.map (·.unitId)) := by
      rw [Text.mem_sortedSet, List.mem_map]
      exact hin
    constructor
    · intro _
      rw [placeInstrument, partition, place_of_notMem (unitOf_id is) hs hmem,
        partition_append_singleton]
      congr 1
      apply List.map_congr_left
      intro id _
      by_cases he : id = i.unitId
      · rw [he, if_pos rfl, unitOf_append_new is i hnew]
      · rw [if_neg he, unitOf_append_other is i he]
    · intro h
      refine absurd ?_ h
      intro a ha b hb hab
      simp only [List.mem_append, List.mem_singleton] at ha hb
      rcases ha with ha | rfl <;> rcases hb with hb | rfl
      · exact hk a ha b hb hab
      · exact absurd hab (hnew a ha)
      · exact absurd hab.symm (hnew b hb)
      · rfl

/-- Placing any number of instruments gives their partition, or reports two that do not agree. -/
theorem foldlM_placeInstrument (is : List Instrument) :
    (KindsAgree is → is.foldlM placeInstrument [] = .ok (partition is)) ∧
    (¬ KindsAgree is → ∃ e, is.foldlM placeInstrument [] = .error e ∧ ReportsKinds is e) := by
  induction is using List.reverseRecOn with
  | nil =>
    have hagree : KindsAgree [] := fun i hi => absurd hi List.not_mem_nil
    exact ⟨fun _ => rfl, fun h => absurd hagree h⟩
  | append_singleton is i ih =>
    rw [List.foldlM_append]
    by_cases hk : KindsAgree is
    · have hstep := placeInstrument_partition hk i
      rw [ih.1 hk]
      constructor
      · intro hki
        simp [bind, Except.bind, hstep.1 hki, pure, Except.pure]
      · intro hki
        obtain ⟨e, he, hreports⟩ := hstep.2 hki
        exact ⟨e, by simp [bind, Except.bind, he], hreports⟩
    · obtain ⟨e, he, hreports⟩ := ih.2 hk
      exact ⟨fun hki => absurd hki.of_append hk,
        fun _ => ⟨e, by simp [bind, Except.bind, he], hreports.append [i]⟩⟩

/-- Placing all pings at once is placing them one by one. -/
theorem place_pings_eq_foldlM (p : Ping) (ps : List Ping) (units : List OutputUnit) :
    place pingsUnitId .pings ((p :: ps).map .ping) units =
      ((p :: ps).map Instrument.ping).foldlM placeInstrument units := by
  induction ps generalizing p units with
  | nil => simp [placeInstrument, Instrument.unitId, Instrument.unitKind]
  | cons q qs ih =>
    rw [List.map_cons, List.foldlM_cons, ← List.singleton_append, place_append]
    change placeInstrument units (.ping p) >>= _ = _
    congr 1
    funext us
    exact ih q us

theorem placeMetric_eq (units : List OutputUnit) (m : Metric) :
    placeMetric units m = placeInstrument units (.metric m) := rfl

/-! ### Names inside a unit -/

/-- Names are new to an extended table exactly if they are new to the table and to its first
entry. -/
theorem forall_lookup_cons_iff {seen : List (String × String)} {identifier name : String}
    {identifiers : List String} :
    (∀ i ∈ identifiers, ((identifier, name) :: seen).lookup i = none) ↔
      identifier ∉ identifiers ∧ ∀ i ∈ identifiers, seen.lookup i = none := by
  have hentry : ∀ i, ((identifier, name) :: seen).lookup i = none ↔
      i ≠ identifier ∧ seen.lookup i = none := by
    intro i
    rw [List.lookup_cons]
    by_cases h : i = identifier
    · simp [h]
    · rw [beq_eq_false_iff_ne.mpr h]
      exact ⟨fun hnone => ⟨h, hnone⟩, And.right⟩
  simp only [hentry, forall_and, ne_eq, List.forall_mem_ne']

theorem firstCollision_eq_none_iff {unit : String} {seen : List (String × String)}
    {is : List Instrument} :
    firstCollision unit seen is = none ↔
      (is.map (·.identifier)).Nodup ∧
        ∀ identifier ∈ is.map (·.identifier), seen.lookup identifier = none := by
  induction is generalizing seen with
  | nil => simp [firstCollision]
  | cons i rest ih =>
    rw [firstCollision, List.map_cons, List.nodup_cons, List.forall_mem_cons]
    cases hl : seen.lookup i.identifier with
    | some first => exact iff_of_false (Option.some_ne_none _) fun h => Option.some_ne_none _ h.2.1
    | none =>
      rw [ih, forall_lookup_cons_iff]
      tauto

theorem collision?_eq_none_iff {u : OutputUnit} :
    u.collision? = none ↔ (u.instruments.map (·.identifier)).Nodup := by
  simp [OutputUnit.collision?, firstCollision_eq_none_iff]

structure Groupable (is : List Instrument) : Prop where
  kinds : KindsAgree is
  names : ∀ u ∈ partition is, (u.instruments.map (·.identifier)).Nodup

/-- Grouping places all instruments and then looks for names that are used twice. -/
theorem group_eq (model : Model) :
    group model = (do
      let units ← model.instruments.foldlM placeInstrument []
      match units.findSome? OutputUnit.collision? with
      | some error => .error error
      | none => .ok units) := by
  rw [Model.instruments, List.foldlM_append, List.foldlM_map, bind_assoc, group]
  simp only [← placeMetric_eq]
  congr 1
  funext units
  cases hp : model.pings with
  | nil => rfl
  | cons p ps =>
    rw [← place_pings_eq_foldlM]
    rfl

/-- Grouping gives the partition of the instruments exactly if their kinds agree and the names
inside every unit are distinct. -/
theorem group_eq_ok_iff {model : Model} {units : List OutputUnit} :
    group model = .ok units ↔
      Groupable model.instruments ∧ units = partition model.instruments := by
  rw [group_eq]
  by_cases hk : KindsAgree model.instruments
  · rw [(foldlM_placeInstrument _).1 hk]
    cases hc : (partition model.instruments).findSome? OutputUnit.collision? with
    | some error =>
      refine iff_of_false (by simp [bind, Except.bind, hc]) fun ⟨h, _⟩ => ?_
      rw [List.findSome?_eq_none_iff.mpr fun u hu => collision?_eq_none_iff.mpr (h.names u hu)] at hc
      cases hc
    | none =>
      have hgroup : Groupable model.instruments :=
        ⟨hk, fun u hu => collision?_eq_none_iff.mp (List.findSome?_eq_none_iff.mp hc u hu)⟩
      simp [bind, Except.bind, hc, hgroup, eq_comm]
  · obtain ⟨e, he, -⟩ := (foldlM_placeInstrument _).2 hk
    exact iff_of_false (by simp [he, bind, Except.bind]) fun ⟨h, _⟩ => hk h.kinds

@[simp] theorem ids_partition (is : List Instrument) :
    (partition is).map (·.id) = Text.sortedSet (is.map (·.unitId)) := by
  simp [partition, Function.comp_def]

/-- The identifiers of units are distinct and ascend. -/
theorem sortedLT_ids_partition (is : List Instrument) :
    ((partition is).map (·.id)).SortedLT := by
  rw [ids_partition]
  exact Text.sortedLT_sortedSet _

/-! ### Partitions of related instruments -/

/-- The instruments in use have the identifiers of their units. -/
theorem mem_partition {is : List Instrument} {u : OutputUnit} :
    u ∈ partition is ↔ ∃ i ∈ is, u = unitOf is i.unitId := by
  simp only [partition, List.mem_map, Text.mem_sortedSet]
  constructor
  · rintro ⟨_, ⟨i, hi, rfl⟩, rfl⟩
    exact ⟨i, hi, rfl⟩
  · rintro ⟨i, hi, rfl⟩
    exact ⟨_, ⟨i, hi, rfl⟩, rfl⟩

theorem Metric.unitKind_ne_pings (m : Metric) : m.unitKind ≠ .pings := by
  rw [unitKind]
  split <;> simp

theorem Metric.unitKind_inj {m n : Metric} : m.unitKind = n.unitKind ↔ m.category = n.category := by
  simp only [unitKind]
  split_ifs with hm hn hn <;> simp [hm, hn]

theorem Instrument.unitId_of_unitKind {i j : Instrument} (h : i.unitKind = j.unitKind) :
    i.unitId = j.unitId := by
  cases i with
  | metric m =>
    cases j with
    | metric n =>
      rw [unitId, unitId, Metric.unitKind_inj.mp h]
    | ping q => exact absurd h m.unitKind_ne_pings
  | ping q =>
    cases j with
    | metric n => exact absurd h.symm n.unitKind_ne_pings
    | ping r => rfl

/-- Where the kinds agree, the instruments with the identifier of one are those of its kind. -/
theorem filter_unitId_eq {is : List Instrument} (hk : KindsAgree is) {i : Instrument}
    (hi : i ∈ is) :
    is.filter (·.unitId == i.unitId) = is.filter (·.unitKind = i.unitKind) := by
  apply List.filter_congr
  intro j hj
  rw [Bool.eq_iff_iff, beq_iff_eq, decide_eq_true_iff]
  exact ⟨hk j hj i hi, Instrument.unitId_of_unitKind⟩

/-- Lists of instruments that agree kind by kind fall into the same units. -/
theorem partition_congr {is js : List Instrument} (hk : KindsAgree is)
    (h : ∀ kind, is.filter (·.unitKind = kind) = js.filter (·.unitKind = kind)) :
    KindsAgree js ∧ partition is = partition js := by
  have hmem : ∀ i, i ∈ is ↔ i ∈ js := by
    intro i
    have := congrArg (i ∈ ·) (h i.unitKind)
    simpa [List.mem_filter] using this
  have hkj : KindsAgree js :=
    fun i hi j hj hid => hk i ((hmem i).mpr hi) j ((hmem j).mpr hj) hid
  have hids : Text.sortedSet (is.map (·.unitId)) = Text.sortedSet (js.map (·.unitId)) := by
    apply Text.sortedSet_congr
    intro id
    simp only [List.mem_map, hmem]
  refine ⟨hkj, ?_⟩
  rw [partition, partition, ← hids]
  apply List.map_congr_left
  intro id hid
  obtain ⟨i, hi, rfl⟩ := List.mem_map.mp (Text.mem_sortedSet.mp hid)
  have hkind := (unitOf_kind hk hi).trans (unitOf_kind hkj ((hmem i).mp hi)).symm
  have hinstruments : (unitOf is i.unitId).instruments = (unitOf js i.unitId).instruments :=
    (filter_unitId_eq hk hi).trans ((h _).trans (filter_unitId_eq hkj ((hmem i).mp hi)).symm)
  rw [OutputUnit.mk.injEq]
  exact ⟨rfl, hkind, hinstruments⟩

def OutputUnit.map (f : Instrument → Instrument) (u : OutputUnit) : OutputUnit :=
  { u with instruments := u.instruments.map f }

/-- The function leaves alone what grouping looks at. -/
structure KeepsPlace (f : Instrument → Instrument) : Prop where
  unitId : ∀ i, (f i).unitId = i.unitId
  unitKind : ∀ i, (f i).unitKind = i.unitKind
  identifier : ∀ i, (f i).identifier = i.identifier

namespace KeepsPlace

variable {f : Instrument → Instrument} {is : List Instrument}

theorem kindsAgree_map_iff (hf : KeepsPlace f) : KindsAgree (is.map f) ↔ KindsAgree is := by
  simp only [KindsAgree, List.forall_mem_map, hf.unitId, hf.unitKind]

theorem partition_map (hf : KeepsPlace f) :
    partition (is.map f) = (partition is).map (OutputUnit.map f) := by
  have hid : (·.unitId) ∘ f = (·.unitId) := funext hf.unitId
  rw [partition, partition, List.map_map, List.map_map, hid]
  apply List.map_congr_left
  intro id _
  simp only [unitOf, OutputUnit.map, Function.comp_apply, List.find?_map, List.filter_map,
    Option.map_map]
  have hkind : (·.unitKind) ∘ f = (·.unitKind) := funext hf.unitKind
  simp only [hkind, Function.comp_def, hf.unitId]

theorem groupable_map_iff (hf : KeepsPlace f) : Groupable (is.map f) ↔ Groupable is := by
  have hidentifier : (·.identifier) ∘ f = (·.identifier) := funext hf.identifier
  have hnames : (∀ u ∈ partition (is.map f), (u.instruments.map (·.identifier)).Nodup) ↔
      ∀ u ∈ partition is, (u.instruments.map (·.identifier)).Nodup := by
    simp only [hf.partition_map, List.forall_mem_map, OutputUnit.map, List.map_map, hidentifier]
  constructor
  · rintro ⟨hk, hn⟩
    exact ⟨hf.kindsAgree_map_iff.mp hk, hnames.mp hn⟩
  · rintro ⟨hk, hn⟩
    exact ⟨hf.kindsAgree_map_iff.mpr hk, hnames.mpr hn⟩

end KeepsPlace

end TelemetryBindings
