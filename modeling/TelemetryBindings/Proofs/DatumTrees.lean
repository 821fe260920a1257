import Mathlib.Data.List.Forall2
import Mathlib.Logic.Relation
import TelemetryBindings.Proofs.Compiling

/-!
# The trees that data make

A datum makes a document tree exactly if every unsigned number that stands as a value fits 63 bits
and every key of a mapping is a string, a boolean or an integer. The tree then has the shape of the
datum: no item and no entry is left out, merged with another or moved, and a key that occurs twice
is there twice.
-/
namespace TelemetryBindings

section

variable {α β : Type} {R S : α → β → Prop} {xs : List α} {ys : List β}

theorem exists_forall₂ (h : ∀ x ∈ xs, ∃ y, R x y) : ∃ ys, List.Forall₂ R xs ys := by
  induction xs with
  | nil => exact ⟨[], .nil⟩
  | cons x xs ih =>
    obtain ⟨⟨y, hy⟩, hrest⟩ := List.forall_mem_cons.mp h
    obtain ⟨ys, hys⟩ := ih hrest
    exact ⟨y :: ys, .cons hy hys⟩

theorem forall₂_congr_of_mem (h : ∀ x ∈ xs, ∀ y, R x y ↔ S x y) :
    List.Forall₂ R xs ys ↔ List.Forall₂ S xs ys := by
  have hinside : ∀ T : α → β → Prop,
      List.Forall₂ T xs ys ↔ List.Forall₂ (fun x y => x ∈ xs ∧ T x y) xs ys := fun T =>
    (and_iff_right fun _ => id).symm.trans (List.forall₂_and_left xs ys).symm
  rw [hinside R, hinside S]
  exact ⟨fun hR => hR.imp fun x y hxy => ⟨hxy.1, (h x hxy.1 y).mp hxy.2⟩,
    fun hS => hS.imp fun x y hxy => ⟨hxy.1, (h x hxy.1 y).mpr hxy.2⟩⟩

end

namespace Datum

/-! ### Positions -/

/-- One datum is a value directly inside another; a key is not. -/
inductive PartOf : Datum → Datum → Prop
  | present (value : Datum) : PartOf value (.present value)
  | item {item : Datum} {items : List Datum} (h : item ∈ items) : PartOf item (.sequence items)
  | entry {entry : Datum × Datum} {entries : List (Datum × Datum)} (h : entry ∈ entries) :
    PartOf entry.2 (.mapping entries)

theorem PartOf.sizeOf_lt {part d : Datum} (h : part.PartOf d) : sizeOf part < sizeOf d := by
  cases h with
  | present => simp
  | item h =>
    have hitem := List.sizeOf_lt_of_mem h
    simp only [sequence.sizeOf_spec]
    omega
  | @entry entry _ h =>
    have hentry := List.sizeOf_lt_of_mem h
    have hvalue : sizeOf entry.2 < sizeOf entry := by
      obtain ⟨key, value⟩ := entry
      simp only [Prod.mk.sizeOf_spec]
      omega
    simp only [mapping.sizeOf_spec]
    omega

theorem wellFounded_partOf : WellFounded PartOf :=
  Subrelation.wf PartOf.sizeOf_lt (measure sizeOf).wf

/-- The first datum stands as a value somewhere in the second, which may be the datum itself. -/
def ValueIn : Datum → Datum → Prop := Relation.ReflTransGen PartOf

theorem forall_valueIn_iff {p : Datum → Prop} {d : Datum} :
    (∀ value, value.ValueIn d → p value) ↔
      p d ∧ ∀ part, part.PartOf d → ∀ value, value.ValueIn part → p value := by
  constructor
  · exact fun h => ⟨h d .refl, fun part hpart value hvalue => h value (hvalue.tail hpart)⟩
  · rintro ⟨hd, hparts⟩ value hvalue
    rcases Relation.ReflTransGen.cases_tail hvalue with rfl | ⟨part, hinside, hpart⟩
    · exact hd
    · exact hparts part hpart value hinside

/-! ### What can be kept -/

def IsKey : Datum → Prop
  | .string _ | .bool _ | .signed _ | .unsigned _ => True
  | _ => False

/-- What a datum has to be, apart from the values inside it. -/
def Fits : Datum → Prop
  | .unsigned n => n.toNat ≤ 2 ^ 63 - 1
  | .mapping entries => ∀ entry ∈ entries, entry.1.IsKey
  | _ => True

structure Admissible (d : Datum) : Prop where
  numbers : ∀ n, (Datum.unsigned n).ValueIn d → n.toNat ≤ 2 ^ 63 - 1
  keys : ∀ entries, (Datum.mapping entries).ValueIn d → ∀ entry ∈ entries, entry.1.IsKey

theorem admissible_iff_fits {d : Datum} :
    d.Admissible ↔ ∀ value : Datum, value.ValueIn d → value.Fits := by
  constructor
  · rintro ⟨hnumbers, hkeys⟩ value hvalue
    cases value with
    | unsigned n => exact hnumbers n hvalue
    | mapping entries => exact hkeys entries hvalue
    | _ => trivial
  · exact fun h => ⟨fun n => h (.unsigned n), fun entries => h (.mapping entries)⟩

/-- A datum can be kept if it fits and so can every value directly inside it. -/
theorem admissible_iff {d : Datum} :
    d.Admissible ↔ d.Fits ∧ ∀ part : Datum, part.PartOf d → part.Admissible := by
  simp only [admissible_iff_fits]
  exact forall_valueIn_iff

theorem admissible_present_iff {value : Datum} :
    (Datum.present value).Admissible ↔ value.Admissible := by
  rw [admissible_iff]
  constructor
  · exact fun h => h.2 value (.present value)
  · refine fun h => ⟨trivial, fun part hpart => ?_⟩
    cases hpart
    exact h

theorem admissible_sequence_iff {items : List Datum} :
    (Datum.sequence items).Admissible ↔ ∀ item ∈ items, item.Admissible := by
  rw [admissible_iff]
  constructor
  · exact fun h item hitem => h.2 item (.item hitem)
  · refine fun h => ⟨trivial, fun part hpart => ?_⟩
    cases hpart with
    | item hitem => exact h part hitem

theorem admissible_mapping_iff {entries : List (Datum × Datum)} :
    (Datum.mapping entries).Admissible ↔
      ∀ entry ∈ entries, entry.1.IsKey ∧ entry.2.Admissible := by
  rw [admissible_iff]
  constructor
  · exact fun h entry hentry => ⟨h.1 entry hentry, h.2 entry.2 (.entry hentry)⟩
  · refine fun h => ⟨fun entry hentry => (h entry hentry).1, fun part hpart => ?_⟩
    cases hpart with
    | entry hentry => exact (h _ hentry).2

/-! ### The same shape -/

inductive KeptAs : Datum → String → Prop
  | string (s : String) : KeptAs (.string s) s
  | true : KeptAs (.bool true) "true"
  | false : KeptAs (.bool false) "false"
  | signed (i : Int64) : KeptAs (.signed i) (toString i.toInt)
  | unsigned (n : UInt64) : KeptAs (.unsigned n) (toString n.toNat)

mutual

/-- The node has the shape of the datum and its values. An absent value is null, and a value that is
present stands for itself; items and entries correspond one to one, in their order. -/
inductive Mirrors : Datum → Node → Prop
  | null : Mirrors .null .null
  | absent : Mirrors .absent .null
  | present {value : Datum} {node : Node} (h : Mirrors value node) : Mirrors (.present value) node
  | bool (b : Bool) : Mirrors (.bool b) (.bool b)
  | signed (i : Int64) : Mirrors (.signed i) (.integer i.toInt)
  | unsigned (n : UInt64) : Mirrors (.unsigned n) (.integer n.toNat)
  | float (x : Double) : Mirrors (.float x) (.float x)
  | string (s : String) : Mirrors (.string s) (.string s)
  | sequence {items : List Datum} {nodes : List Node} (h : List.Forall₂ Mirrors items nodes) :
    Mirrors (.sequence items) (.list nodes)
  | mapping {entries : List (Datum × Datum)} {fields : List (String × Node)}
    (h : List.Forall₂ MirrorsEntry entries fields) : Mirrors (.mapping entries) (.mapping fields)

inductive MirrorsEntry : Datum × Datum → String × Node → Prop
  | keyed {key value : Datum} {name : String} {node : Node} (hname : key.KeptAs name)
    (hnode : Mirrors value node) : MirrorsEntry (key, value) (name, node)

end

theorem KeptAs.isKey {key : Datum} {name : String} (h : key.KeptAs name) : key.IsKey := by
  cases h <;> trivial

theorem IsKey.exists_keptAs {key : Datum} (h : key.IsKey) : ∃ name, key.KeptAs name := by
  cases key with
  | bool b =>
    cases b with
    | true => exact ⟨_, .true⟩
    | false => exact ⟨_, .false⟩
  | signed i => exact ⟨_, .signed i⟩
  | unsigned n => exact ⟨_, .unsigned n⟩
  | string s => exact ⟨_, .string s⟩
  | _ => exact h.elim

theorem mirrors_present_iff {value : Datum} {node : Node} :
    (Datum.present value).Mirrors node ↔ value.Mirrors node :=
  ⟨fun h => by cases h with | present h => exact h, .present⟩

theorem mirrors_sequence_iff {items : List Datum} {node : Node} :
    (Datum.sequence items).Mirrors node ↔
      ∃ nodes, List.Forall₂ Mirrors items nodes ∧ node = .list nodes := by
  constructor
  · rintro (_ | _)
    exact ⟨_, ‹_›, rfl⟩
  · rintro ⟨nodes, h, rfl⟩
    exact .sequence h

theorem mirrorsEntry_iff {entry : Datum × Datum} {field : String × Node} :
    MirrorsEntry entry field ↔ entry.1.KeptAs field.1 ∧ entry.2.Mirrors field.2 :=
  ⟨fun h => by cases h with | keyed hname hnode => exact ⟨hname, hnode⟩,
    fun h => .keyed h.1 h.2⟩

theorem mirrors_mapping_iff {entries : List (Datum × Datum)} {node : Node} :
    (Datum.mapping entries).Mirrors node ↔
      ∃ fields, List.Forall₂ MirrorsEntry entries fields ∧ node = .mapping fields := by
  constructor
  · rintro (_ | _)
    exact ⟨_, ‹_›, rfl⟩
  · rintro ⟨fields, h, rfl⟩
    exact .mapping h

theorem Admissible.exists_mirrors {d : Datum} (h : d.Admissible) : ∃ node, d.Mirrors node := by
  induction d using wellFounded_partOf.induction with
  | _ d ih =>
    cases d with
    | null => exact ⟨_, .null⟩
    | absent => exact ⟨_, .absent⟩
    | present value =>
      obtain ⟨node, hnode⟩ := ih value (.present value) (admissible_present_iff.mp h)
      exact ⟨node, .present hnode⟩
    | bool b => exact ⟨_, .bool b⟩
    | signed i => exact ⟨_, .signed i⟩
    | unsigned n => exact ⟨_, .unsigned n⟩
    | float x => exact ⟨_, .float x⟩
    | string s => exact ⟨_, .string s⟩
    | sequence items =>
      obtain ⟨nodes, hnodes⟩ := exists_forall₂ fun item hitem =>
        ih item (.item hitem) (admissible_sequence_iff.mp h item hitem)
      exact ⟨_, .sequence hnodes⟩
    | mapping entries =>
      have hentry : ∀ entry ∈ entries, ∃ field, MirrorsEntry entry field := by
        intro entry hentry
        obtain ⟨hkey, hvalue⟩ := admissible_mapping_iff.mp h entry hentry
        obtain ⟨name, hname⟩ := hkey.exists_keptAs
        obtain ⟨node, hnode⟩ := ih entry.2 (.entry hentry) hvalue
        exact ⟨(name, node), .keyed hname hnode⟩
      obtain ⟨fields, hfields⟩ := exists_forall₂ hentry
      exact ⟨_, .mapping hfields⟩

end Datum

/-! ### Making the tree -/

namespace Node

open Datum

theorem keyOfDatum_eq_ok_iff {key : Datum} {name : String} :
    keyOfDatum key = .ok name ↔ key.KeptAs name := by
  constructor
  · intro h
    cases key with
    | bool b => cases b <;> cases h <;> constructor
    | signed i => cases h; exact .signed i
    | unsigned n => cases h; exact .unsigned n
    | string s => cases h; exact .string _
    | _ => cases h
  · intro h
    cases h <;> rfl

theorem ofItems_eq_mapM (items : List Datum) : ofItems items = items.mapM ofDatum := by
  induction items with
  | nil => rfl
  | cons item items ih => rw [ofItems, ih, List.mapM_cons]

def ofEntry (entry : Datum × Datum) : Except Fault (String × Node) := do
  let name ← keyOfDatum entry.1
  let node ← ofDatum entry.2
  return (name, node)

theorem ofEntries_eq_mapM (entries : List (Datum × Datum)) :
    ofEntries entries = entries.mapM ofEntry := by
  induction entries with
  | nil => rfl
  | cons entry entries ih =>
    rw [ofEntries, ih, List.mapM_cons, ofEntry]
    simp only [bind_assoc, pure_bind]

theorem ofEntry_eq_ok_iff {entry : Datum × Datum} {field : String × Node} :
    ofEntry entry = .ok field ↔
      entry.1.KeptAs field.1 ∧ ofDatum entry.2 = .ok field.2 := by
  rw [ofEntry, bind_eq_ok_iff]
  constructor
  · rintro ⟨name, hname, h⟩
    obtain ⟨node, hnode, h⟩ := bind_eq_ok_iff.mp h
    cases h
    exact ⟨keyOfDatum_eq_ok_iff.mp hname, hnode⟩
  · rintro ⟨hname, hnode⟩
    exact ⟨field.1, keyOfDatum_eq_ok_iff.mpr hname, bind_eq_ok_iff.mpr ⟨field.2, hnode, rfl⟩⟩

theorem ofDatum_sequence_eq_ok_iff {items : List Datum} {node : Node} :
    ofDatum (.sequence items) = .ok node ↔
      ∃ nodes, List.Forall₂ (fun item node => ofDatum item = .ok node) items nodes ∧
        node = .list nodes := by
  rw [ofDatum, ofItems_eq_mapM, bind_eq_ok_iff]
  simp only [mapM_eq_ok_iff, pure, Except.pure, Except.ok.injEq, @eq_comm _ node]

theorem ofDatum_mapping_eq_ok_iff {entries : List (Datum × Datum)} {node : Node} :
    ofDatum (.mapping entries) = .ok node ↔
      ∃ fields, List.Forall₂ (fun entry field => ofEntry entry = .ok field) entries fields ∧
        node = .mapping fields := by
  rw [ofDatum, ofEntries_eq_mapM, bind_eq_ok_iff]
  simp only [mapM_eq_ok_iff, pure, Except.pure, Except.ok.injEq, @eq_comm _ node]

/-- A datum without values inside it is kept as the one node that mirrors it. -/
theorem ofDatum_eq_ok_iff_of_leaf {d : Datum} {kept : Node} (hkept : ofDatum d = .ok kept)
    (hfits : d.Fits) (hleaf : ∀ part : Datum, ¬ part.PartOf d) (hmirrors : d.Mirrors kept)
    (honly : ∀ node, d.Mirrors node → node = kept) (node : Node) :
    ofDatum d = .ok node ↔ d.Admissible ∧ d.Mirrors node := by
  have hd : d.Admissible := admissible_iff.mpr ⟨hfits, fun part hpart => (hleaf part hpart).elim⟩
  rw [hkept, Except.ok.injEq]
  constructor
  · rintro rfl
    exact ⟨hd, hmirrors⟩
  · exact fun h => (honly node h.2).symm

/-- The induction is on the values inside a datum: a list of them is kept if all of them are. -/
theorem ofDatum_eq_ok_iff (d : Datum) (node : Node) :
    ofDatum d = .ok node ↔ d.Admissible ∧ d.Mirrors node := by
  induction d using wellFounded_partOf.induction generalizing node with
  | _ d ih =>
    cases d with
    | present value =>
      rw [ofDatum, ih value (.present value), admissible_present_iff, mirrors_present_iff]
    | unsigned n =>
      by_cases hn : n.toNat ≤ 2 ^ 63 - 1
      · have hkept : ofDatum (.unsigned n) = .ok (.integer n.toNat) := by
          rw [ofDatum, if_pos (by omega)]
        exact ofDatum_eq_ok_iff_of_leaf hkept hn nofun (.unsigned n)
          (fun node h => by cases h; rfl) node
      · rw [ofDatum, if_neg (by omega)]
        exact ⟨nofun, fun h => absurd (h.1.numbers n .refl) hn⟩
    | sequence items =>
      have hitems : ∀ nodes, List.Forall₂ (fun item node => ofDatum item = .ok node) items nodes ↔
          (∀ item ∈ items, item.Admissible) ∧ List.Forall₂ Mirrors items nodes := fun nodes =>
        (forall₂_congr_of_mem fun item hitem node => ih item (.item hitem) node).trans
          (List.forall₂_and_left items nodes)
      rw [ofDatum_sequence_eq_ok_iff, admissible_sequence_iff, mirrors_sequence_iff]
      simp only [hitems, and_assoc, exists_and_left]
    | mapping entries =>
      have hentry : ∀ entry ∈ entries, ∀ field, ofEntry entry = .ok field ↔
          (entry.1.IsKey ∧ entry.2.Admissible) ∧ MirrorsEntry entry field := by
        intro entry hentry field
        rw [ofEntry_eq_ok_iff, ih entry.2 (.entry hentry), mirrorsEntry_iff]
        constructor
        · exact fun ⟨hname, hvalue, hnode⟩ => ⟨⟨hname.isKey, hvalue⟩, hname, hnode⟩
        · exact fun ⟨⟨_, hvalue⟩, hname, hnode⟩ => ⟨hname, hvalue, hnode⟩
      have hentries := fun fields : List (String × Node) =>
        (forall₂_congr_of_mem hentry).trans (List.forall₂_and_left entries fields)
      rw [ofDatum_mapping_eq_ok_iff, admissible_mapping_iff, mirrors_mapping_iff]
      simp only [hentries, and_assoc, exists_and_left]
    | _ =>
      refine ofDatum_eq_ok_iff_of_leaf rfl ?_ ?_ ?_ ?_ node
      · trivial
      · nofun
      · constructor
      · intro node h
        cases h
        rfl

/-- A datum makes a tree exactly if every unsigned number that stands as a value in it is below
`2 ^ 63` and every key of a mapping is a string, a boolean or an integer; one failure anywhere is a
failure of the whole. The tree is the one that mirrors the datum: items and entries in their order,
repeated keys included, keys as their text and values as they are. -/
theorem ofDatum_mirrors (d : Datum) :
    ((∃ node, ofDatum d = .ok node) ↔ d.Admissible) ∧
      ∀ node, ofDatum d = .ok node ↔ d.Admissible ∧ d.Mirrors node := by
  refine ⟨⟨fun ⟨node, hnode⟩ => ((ofDatum_eq_ok_iff d node).mp hnode).1, fun h => ?_⟩,
    ofDatum_eq_ok_iff d⟩
  obtain ⟨node, hnode⟩ := h.exists_mirrors
  exact ⟨node, (ofDatum_eq_ok_iff d node).mpr ⟨h, hnode⟩⟩

/-- Keys of every kind, one of them repeated and one beyond the range of values. -/
def keyedData : Datum :=
  .mapping [(.bool true, .sequence [.signed (-1), .absent]),
    (.string "a", .present (.string "x")), (.signed (-3), .bool false), (.string "a", .unsigned 7),
    (.unsigned 0x8000000000000000, .null)]

theorem ofDatum_mirrors_repeated :
    keyedData.Admissible ∧
      keyedData.Mirrors (.mapping [("true", .list [.integer (-1), .null]), ("a", .string "x"),
        ("-3", .bool false), ("a", .integer 7), ("9223372036854775808", .null)]) ∧
      ¬ (Datum.sequence [.null, .unsigned 0x8000000000000000]).Admissible := by
  obtain ⟨hadmissible, hmirrors⟩ := ((ofDatum_mirrors keyedData).2 _).mp rfl
  refine ⟨hadmissible, hmirrors, fun h => ?_⟩
  obtain ⟨node, hnode⟩ := (ofDatum_mirrors _).1.mpr h
  cases hnode

end Node

end TelemetryBindings
