import Mathlib.Data.List.Dedup
import Mathlib.Data.List.Perm.Basic
import TelemetryBindings.Proofs.ByteOrder
import TelemetryBindings.Proofs.Units

/-!
# The outcome of grouping

Grouping has one of three outcomes, for any model at all. A unit identifier that belongs to two
categories, or to a category and the pings, is a unit collision; failing that, a name in generated
code that belongs to two metrics of one category, or to two pings, is an identifier collision;
otherwise there is one unit for every category and one for the pings, ascending by identifier. The
errors name two instruments that do collide.
-/
namespace TelemetryBindings

/-! ### Reported names -/

/-- An instrument and a later one of its unit have one name in generated code, and the error names
both of them. -/
def ReportsNames (is : List Instrument) (e : GroupingError) : Prop :=
  ∃ i j, [i, j].Sublist is ∧ i.unitId = j.unitId ∧ i.identifier = j.identifier ∧
    e = .identifierCollision j.unitId j.identifier i.name j.name

/-- The first of the reported names stands in the table or before the second. -/
theorem firstCollision_eq_some {unit : String} {seen : List (String × String)}
    {is : List Instrument} {e : GroupingError} (h : firstCollision unit seen is = some e) :
    ∃ first j, e = .identifierCollision unit j.identifier first j.name ∧
      ((j ∈ is ∧ (j.identifier, first) ∈ seen) ∨
        ∃ i, [i, j].Sublist is ∧ i.identifier = j.identifier ∧ i.name = first) := by
  induction is generalizing seen with
  | nil => cases h
  | cons i rest ih =>
    rw [firstCollision] at h
    cases hlookup : seen.lookup i.identifier with
    | some first =>
      rw [hlookup] at h
      obtain ⟨before, after, rfl, -⟩ := List.lookup_eq_some_iff.mp hlookup
      exact ⟨first, i, (Option.some.inj h).symm, Or.inl ⟨List.mem_cons_self, by simp⟩⟩
    | none =>
      rw [hlookup] at h
      -- A name found in the table is that of `i`, or it was there before.
      obtain ⟨first, j, he, ⟨hj, hseen⟩ | ⟨k, hsub, hk⟩⟩ := ih h
      · rcases List.mem_cons.mp hseen with hfirst | hseen
        · obtain ⟨hidentifier, hname⟩ := Prod.mk.inj hfirst
          refine ⟨first, j, he, Or.inr ⟨i, ?_, hidentifier.symm, hname.symm⟩⟩
          exact (List.singleton_sublist.mpr hj).cons_cons i
        · exact ⟨first, j, he, Or.inl ⟨List.mem_cons_of_mem i hj, hseen⟩⟩
      · exact ⟨first, j, he, Or.inr ⟨k, hsub.cons i, hk⟩⟩

theorem reportsNames_of_collision? {is : List Instrument} {u : OutputUnit} {e : GroupingError}
    (hu : u ∈ partition is) (h : u.collision? = some e) : ReportsNames is e := by
  obtain ⟨k, -, rfl⟩ := mem_partition.mp hu
  obtain ⟨first, j, rfl, ⟨-, hseen⟩ | ⟨i, hsub, hidentifier, rfl⟩⟩ := firstCollision_eq_some h
  · exact absurd hseen List.not_mem_nil
  · have hid : ∀ a ∈ [i, j], a.unitId = k.unitId := fun a ha => by
      simpa using (List.mem_filter.mp (hsub.subset ha)).2
    have hi := hid i (by simp)
    have hj := hid j (by simp)
    exact ⟨i, j, hsub.trans List.filter_sublist, hi.trans hj.symm, hidentifier, by rw [hj]; rfl⟩

def DistinctNames (is : List Instrument) : Prop :=
  is.Pairwise fun i j => i.unitId = j.unitId → i.identifier ≠ j.identifier

theorem nodup_identifiers_iff {is : List Instrument} :
    (∀ u ∈ partition is, (u.instruments.map (·.identifier)).Nodup) ↔ DistinctNames is := by
  have hunit : ∀ id, ((unitOf is id).instruments.map (·.identifier)).Nodup ↔
      is.Pairwise fun i j => i.unitId = id → j.unitId = id → i.identifier ≠ j.identifier := by
    intro id
    simp only [unitOf, List.Nodup, List.pairwise_map, List.pairwise_filter, beq_iff_eq]
  constructor
  · intro h
    refine List.pairwise_iff_forall_sublist.mpr fun {i j} hsub hid => ?_
    have hi : i ∈ is := hsub.subset (by simp)
    have hpair := (hunit i.unitId).mp (h _ (mem_partition.mpr ⟨i, hi, rfl⟩))
    exact List.pairwise_iff_forall_sublist.mp hpair hsub rfl hid.symm
  · intro h u hu
    obtain ⟨i, -, rfl⟩ := mem_partition.mp hu
    exact (hunit _).mpr (h.imp fun hij ha hb => hij (ha.trans hb.symm))

/-- What grouping does depends on two conditions, and the first decides if both fail. -/
theorem group_cases (model : Model) :
    (¬ KindsAgree model.instruments →
      ∃ e, group model = .error e ∧ ReportsKinds model.instruments e) ∧
    (KindsAgree model.instruments → ¬ DistinctNames model.instruments →
      ∃ e, group model = .error e ∧ ReportsNames model.instruments e) ∧
    (KindsAgree model.instruments → DistinctNames model.instruments →
      group model = .ok (partition model.instruments)) := by
  refine ⟨fun hk => ?_, fun hk hnames => ?_, fun hk hnames => ?_⟩
  · obtain ⟨e, he, hreports⟩ := (foldlM_placeInstrument _).2 hk
    exact ⟨e, by rw [group_eq, he]; rfl, hreports⟩
  · rw [group_eq, (foldlM_placeInstrument _).1 hk]
    cases hc : (partition model.instruments).findSome? OutputUnit.collision? with
    | none =>
      refine absurd (nodup_identifiers_iff.mp fun u hu => ?_) hnames
      exact collision?_eq_none_iff.mp (List.findSome?_eq_none_iff.mp hc u hu)
    | some e =>
      obtain ⟨u, hu, hcollision⟩ := List.exists_of_findSome?_eq_some hc
      exact ⟨e, by simp [bind, Except.bind, hc], reportsNames_of_collision? hu hcollision⟩
  · exact group_eq_ok_iff.mpr ⟨⟨hk, nodup_identifiers_iff.mpr hnames⟩, rfl⟩

/-! ### Collisions of a model -/

namespace Model

variable {model : Model}

def UnitsClash (model : Model) : Prop :=
  (∃ m ∈ model.metrics, ∃ n ∈ model.metrics,
    m.category ≠ n.category ∧ unitId m.category = unitId n.category) ∨
  model.pings ≠ [] ∧ ∃ m ∈ model.metrics, unitId m.category = pingsUnitId

def NamesClash (model : Model) : Prop :=
  (∃ m n, [m, n].Sublist model.metrics ∧
    m.category = n.category ∧ Text.camel m.name = Text.camel n.name) ∨
  ∃ q r, [q, r].Sublist model.pings ∧ Text.camel q.name = Text.camel r.name

theorem kindsAgree_instruments_iff : KindsAgree model.instruments ↔ ¬ model.UnitsClash := by
  have hmetric : ∀ m ∈ model.metrics, Instrument.metric m ∈ model.instruments :=
    fun m hm => List.mem_append_left _ (List.mem_map_of_mem hm)
  have hping : ∀ q ∈ model.pings, Instrument.ping q ∈ model.instruments :=
    fun q hq => List.mem_append_right _ (List.mem_map_of_mem hq)
  constructor
  · rintro h (⟨m, hm, n, hn, hne, hid⟩ | ⟨hpings, m, hm, hid⟩)
    · exact hne (Metric.unitKind_inj.mp (h _ (hmetric m hm) _ (hmetric n hn) hid))
    · obtain ⟨q, hq⟩ := List.exists_mem_of_ne_nil _ hpings
      exact m.unitKind_ne_pings (h _ (hmetric m hm) _ (hping q hq) hid)
  · intro h
    have hapart : ∀ m ∈ model.metrics, ∀ q ∈ model.pings, unitId m.category ≠ pingsUnitId :=
      fun m hm q hq hid => h (Or.inr ⟨List.ne_nil_of_mem hq, m, hm, hid⟩)
    simp only [KindsAgree, instruments, List.forall_mem_append, List.forall_mem_map]
    refine ⟨fun m hm => ⟨fun n hn hid => ?_, fun q hq hid => absurd hid (hapart m hm q hq)⟩,
      fun q hq => ⟨fun m hm hid => absurd hid.symm (hapart m hm q hq), fun r hr _ => rfl⟩⟩
    by_contra hne
    exact h (Or.inl ⟨m, hm, n, hn, fun hcategory => hne (Metric.unitKind_inj.mpr hcategory), hid⟩)

theorem distinctNames_instruments_iff (h : ¬ model.UnitsClash) :
    DistinctNames model.instruments ↔ ¬ model.NamesClash := by
  constructor
  · rintro hnames (⟨m, n, hsub, hcategory, hname⟩ | ⟨q, r, hsub, hname⟩)
    · have hboth : [.metric m, .metric n].Sublist model.instruments :=
        (hsub.map Instrument.metric).trans (List.sublist_append_left _ _)
      exact List.pairwise_iff_forall_sublist.mp hnames hboth (congrArg unitId hcategory) hname
    · have hboth : [.ping q, .ping r].Sublist model.instruments :=
        (hsub.map Instrument.ping).trans (List.sublist_append_right _ _)
      exact List.pairwise_iff_forall_sublist.mp hnames hboth rfl hname
  · intro hnames
    refine List.pairwise_append.mpr ⟨List.pairwise_map.mpr ?_, List.pairwise_map.mpr ?_, ?_⟩
    · refine List.pairwise_iff_forall_sublist.mpr fun {m n} hsub hid hname => ?_
      refine hnames (Or.inl ⟨m, n, hsub, ?_, hname⟩)
      by_contra hne
      exact h (Or.inl ⟨m, hsub.subset (by simp), n, hsub.subset (by simp), hne, hid⟩)
    · exact List.pairwise_iff_forall_sublist.mpr fun {q r} hsub _ hname =>
        hnames (Or.inr ⟨q, r, hsub, hname⟩)
    · simp only [List.forall_mem_map]
      exact fun m hm q hq hid => absurd (Or.inr ⟨List.ne_nil_of_mem hq, m, hm, hid⟩) h

/-! ### Units of a model -/

def categoryUnit (model : Model) (category : String) : OutputUnit where
  id := unitId category
  kind := if category = "" then .internal else .category category
  instruments := (model.metrics.filter (·.category = category)).map .metric

def pingsUnit (model : Model) : OutputUnit where
  id := pingsUnitId
  kind := .pings
  instruments := model.pings.map .ping

/-- One unit for every category, and one for the pings if there are any. -/
def units (model : Model) : List OutputUnit :=
  (model.metrics.map (·.category)).dedup.map model.categoryUnit ++
    if model.pings = [] then [] else [model.pingsUnit]

/-- The units are those of the model, ascending by the bytes of their identifiers, and every
instrument is in exactly one of them. -/
structure DividesInto (model : Model) (us : List OutputUnit) : Prop where
  ascending : us.Pairwise fun u v => Text.bytes u.id < Text.bytes v.id
  units : us.Perm model.units
  instruments : ∀ i ∈ model.instruments, ∃! u, u ∈ us ∧ i ∈ u.instruments

theorem unitOf_category (hk : KindsAgree model.instruments) {m : Metric} (hm : m ∈ model.metrics) :
    unitOf model.instruments (unitId m.category) = model.categoryUnit m.category := by
  have hmem : Instrument.metric m ∈ model.instruments :=
    List.mem_append_left _ (List.mem_map_of_mem hm)
  have hinstruments : model.instruments.filter (·.unitId == (Instrument.metric m).unitId) =
      (model.metrics.filter (·.category = m.category)).map .metric := by
    rw [filter_unitId_eq hk hmem, instruments, List.filter_append, List.filter_map, List.filter_map]
    simp [Function.comp_def, Instrument.unitKind, Metric.unitKind_inj, m.unitKind_ne_pings.symm]
  rw [categoryUnit, ← hinstruments]
  exact OutputUnit.mk.injEq .. |>.mpr ⟨rfl, unitOf_kind hk hmem, rfl⟩

theorem unitOf_pings (hk : KindsAgree model.instruments) (hpings : model.pings ≠ []) :
    unitOf model.instruments pingsUnitId = model.pingsUnit := by
  obtain ⟨q, hq⟩ := List.exists_mem_of_ne_nil _ hpings
  have hmem : Instrument.ping q ∈ model.instruments :=
    List.mem_append_right _ (List.mem_map_of_mem hq)
  have hinstruments : model.instruments.filter (·.unitId == (Instrument.ping q).unitId) =
      model.pings.map .ping := by
    rw [filter_unitId_eq hk hmem, instruments, List.filter_append, List.filter_map, List.filter_map]
    simp [Function.comp_def, Instrument.unitKind, Metric.unitKind_ne_pings]
  rw [pingsUnit, ← hinstruments]
  exact OutputUnit.mk.injEq .. |>.mpr ⟨rfl, unitOf_kind hk hmem, rfl⟩

theorem categoryUnit_injective (model : Model) : Function.Injective model.categoryUnit := by
  intro c d h
  have hkind := congrArg OutputUnit.kind h
  simp only [categoryUnit] at hkind
  split_ifs at hkind with hc hd hd
  · rw [hc, hd]
  · exact UnitKind.category.inj hkind

theorem mem_units {u : OutputUnit} : u ∈ model.units ↔
    (∃ m ∈ model.metrics, u = model.categoryUnit m.category) ∨
      model.pings ≠ [] ∧ u = model.pingsUnit := by
  rw [units, List.mem_append]
  refine or_congr ?_ ?_
  · simp [eq_comm]
  · split_ifs with h <;> simp [h]

theorem nodup_units (model : Model) : model.units.Nodup := by
  refine ((List.nodup_dedup _).map model.categoryUnit_injective).append ?_ ?_
  · split_ifs
    · exact List.nodup_nil
    · exact List.nodup_singleton _
  · intro u hu hpings
    obtain ⟨c, -, rfl⟩ := List.mem_map.mp hu
    split_ifs at hpings with h
    · exact List.not_mem_nil hpings
    · have hkind := congrArg OutputUnit.kind (List.mem_singleton.mp hpings)
      simp only [categoryUnit, pingsUnit] at hkind
      split_ifs at hkind

/-- The partition of the instruments is that into categories and pings. -/
theorem dividesInto_partition (hk : KindsAgree model.instruments) :
    model.DividesInto (partition model.instruments) := by
  have hids := sortedLT_ids_partition model.instruments
  refine ⟨?_, ?_, fun i hi => ?_⟩
  · simp only [Text.bytes_lt_iff]
    exact List.pairwise_map.mp (List.sortedLT_iff_pairwise.mp hids)
  · -- Neither list repeats a unit, so that it is enough that they have the same ones.
    refine (List.perm_ext_iff_of_nodup (List.Nodup.of_map _ hids.nodup) model.nodup_units).mpr ?_
    intro u
    rw [mem_partition, mem_units]
    simp only [instruments, List.mem_append, List.mem_map, or_and_right, exists_or]
    refine or_congr ⟨?_, ?_⟩ ⟨?_, ?_⟩
    · rintro ⟨_, ⟨m, hm, rfl⟩, rfl⟩
      exact ⟨m, hm, unitOf_category hk hm⟩
    · rintro ⟨m, hm, rfl⟩
      exact ⟨_, ⟨m, hm, rfl⟩, (unitOf_category hk hm).symm⟩
    · rintro ⟨_, ⟨q, hq, rfl⟩, rfl⟩
      exact ⟨List.ne_nil_of_mem hq, unitOf_pings hk (List.ne_nil_of_mem hq)⟩
    · rintro ⟨hpings, rfl⟩
      obtain ⟨q, hq⟩ := List.exists_mem_of_ne_nil _ hpings
      exact ⟨_, ⟨q, hq, rfl⟩, (unitOf_pings hk hpings).symm⟩
  · refine ⟨unitOf model.instruments i.unitId, ⟨mem_partition.mpr ⟨i, hi, rfl⟩, ?_⟩, ?_⟩
    · exact List.mem_filter.mpr ⟨hi, beq_self_eq_true _⟩
    · rintro u ⟨hu, hmem⟩
      obtain ⟨j, -, rfl⟩ := mem_partition.mp hu
      rw [beq_iff_eq.mp (List.mem_filter.mp hmem).2]

end Model

/-- Grouping fails with a unit collision exactly if two categories, or a category and the pings,
have one unit identifier, otherwise with an identifier collision exactly if two metrics of one
category, or two pings, have one name in generated code, and otherwise divides the model into its
units. -/
theorem group_outcome (model : Model) :
    ((∃ unit first second, group model = .error (.unitCollision unit first second)) ↔
      model.UnitsClash) ∧
    ((∃ unit identifier first second,
        group model = .error (.identifierCollision unit identifier first second)) ↔
      ¬ model.UnitsClash ∧ model.NamesClash) ∧
    ((∃ units, group model = .ok units ∧ model.DividesInto units) ↔
      ¬ model.UnitsClash ∧ ¬ model.NamesClash) := by
  obtain ⟨hunits, hnames, hok⟩ := group_cases model
  by_cases hclash : model.UnitsClash
  · obtain ⟨e, he, i, j, -, -, -, rfl⟩ :=
      hunits fun hk => Model.kindsAgree_instruments_iff.mp hk hclash
    simp [he, hclash]
  · have hk := Model.kindsAgree_instruments_iff.mpr hclash
    have hiff := Model.distinctNames_instruments_iff hclash
    by_cases hname : model.NamesClash
    · obtain ⟨e, he, i, j, -, -, -, rfl⟩ := hnames hk fun hd => hiff.mp hd hname
      simp [he, hclash, hname]
    · have hgroup := hok hk (hiff.mpr hname)
      simp [hgroup, hclash, hname, Model.dividesInto_partition hk]

end TelemetryBindings
