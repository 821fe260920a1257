import Mathlib.Data.Finset.Dedup
import Mathlib.Data.Finset.Card
import Mathlib.Data.List.Induction
import TelemetryBindings.OrderedMap

/-!
# Maps after any insertions

Of a history of insertions a map in declaration order keeps the first under every key, in the order
of the calls; every later one is refused and changes nothing. So what is looked up under a key is
what was inserted under it first.
-/
namespace TelemetryBindings.OrderedMap

variable {α : Type} {m : OrderedMap α} {calls : List (String × α)}

/-- The calls under a key that is none of the given ones and that no earlier call has. -/
def newCalls (known : List String) : List (String × α) → List (String × α)
  | [] => []
  | call :: calls =>
    (if call.1 ∈ known then [] else [call]) ++ newCalls (known ++ [call.1]) calls

theorem newCalls_append (known : List String) (calls more : List (String × α)) :
    newCalls known (calls ++ more) =
      newCalls known calls ++ newCalls (known ++ calls.map Prod.fst) more := by
  induction calls generalizing known with
  | nil => simp [newCalls]
  | cons call calls ih =>
    rw [List.cons_append, newCalls, newCalls, ih, List.append_assoc, List.map_cons,
      List.append_assoc, List.singleton_append]

theorem mem_newCalls_iff {known : List String} {key : String} {value : α} :
    (key, value) ∈ newCalls known calls ↔ key ∉ known ∧
      ∃ before after, calls = before ++ (key, value) :: after ∧ key ∉ before.map Prod.fst := by
  induction calls generalizing known with
  | nil => simp [newCalls]
  | cons call calls ih =>
    obtain ⟨first, old⟩ := call
    rw [newCalls, List.mem_append, ih, List.mem_append, not_or, List.mem_singleton]
    constructor
    · rintro (hfirst | ⟨⟨hknown, hne⟩, before, after, rfl, hbefore⟩)
      · split_ifs at hfirst with hknown
        · exact absurd hfirst List.not_mem_nil
        · cases List.mem_singleton.mp hfirst
          exact ⟨hknown, [], calls, rfl, List.not_mem_nil⟩
      · refine ⟨hknown, (first, old) :: before, after, rfl, ?_⟩
        rw [List.map_cons]
        exact List.not_mem_cons_of_ne_of_not_mem hne hbefore
    · rintro ⟨hknown, before, after, hcalls, hbefore⟩
      cases before with
      | nil =>
        cases hcalls
        left
        rw [if_neg hknown]
        exact List.mem_singleton_self _
      | cons call before =>
        cases hcalls
        rw [List.map_cons, List.mem_cons, not_or] at hbefore
        exact Or.inr ⟨⟨hknown, hbefore.1⟩, before, after, rfl, hbefore.2⟩

theorem mem_keys_iff {key : String} : key ∈ m.keys ↔ m.contains key := by
  simp [keys, contains]

theorem get?_eq_some_iff (h : m.keys.Nodup) {key : String} {value : α} :
    m.get? key = some value ↔ (key, value) ∈ m.entries := by
  rw [get?, Option.map_eq_some_iff]
  constructor
  · rintro ⟨⟨found, _⟩, hfind, rfl⟩
    have hkey : found = key := by simpa using List.find?_some hfind
    exact hkey ▸ List.mem_of_find?_eq_some hfind
  · intro hmem
    have hsome : (m.entries.find? (·.1 == key)).isSome := List.find?_isSome.mpr ⟨_, hmem, by simp⟩
    obtain ⟨entry, hfind⟩ := Option.isSome_iff_exists.mp hsome
    have hkey : entry.1 = key := by simpa using List.find?_some hfind
    have hsame : entry = (key, value) :=
      List.inj_on_of_nodup_map h (List.mem_of_find?_eq_some hfind) hmem hkey
    exact ⟨entry, hfind, by rw [hsame]⟩

theorem contains_iff_isSome {key : String} : m.contains key ↔ (m.get? key).isSome := by
  simp [contains, get?]

/-! ### One call -/

theorem insert_of_mem {key : String} (h : key ∈ m.keys) (value : α) :
    m.insert key value = .error key := by
  rw [insert, if_pos (mem_keys_iff.mp h)]

theorem insert_of_notMem {key : String} (h : key ∉ m.keys) (value : α) :
    m.insert key value = .ok ⟨m.entries ++ [(key, value)]⟩ := by
  rw [insert, if_neg fun hcontains => h (mem_keys_iff.mpr hcontains)]

/-- The map after a call; a refused one leaves it as it was. -/
def afterCall (m : OrderedMap α) (call : String × α) : OrderedMap α :=
  (m.insert call.1 call.2).toOption.getD m

theorem afterCall_of_mem {call : String × α} (h : call.1 ∈ m.keys) : m.afterCall call = m := by
  rw [afterCall, insert_of_mem h]
  rfl

theorem afterCall_of_notMem {call : String × α} (h : call.1 ∉ m.keys) :
    m.afterCall call = ⟨m.entries ++ [call]⟩ := by
  rw [afterCall, insert_of_notMem h]
  rfl

/-- The map holds what is new among the calls, and knows their keys. -/
structure Holds (m : OrderedMap α) (calls : List (String × α)) : Prop where
  entries : m.entries = newCalls [] calls
  nodup : m.keys.Nodup
  keys : ∀ key, key ∈ m.keys ↔ key ∈ calls.map Prod.fst

theorem holds_empty : (empty : OrderedMap α).Holds [] :=
  ⟨rfl, List.nodup_nil, fun _ => Iff.rfl⟩

theorem Holds.afterCall (h : m.Holds calls) (call : String × α) :
    (m.afterCall call).Holds (calls ++ [call]) := by
  have hnew : newCalls [] (calls ++ [call]) =
      m.entries ++ if call.1 ∈ calls.map Prod.fst then [] else [call] := by
    rw [newCalls_append, ← h.entries, newCalls, newCalls, List.append_nil, List.nil_append]
  by_cases hkey : call.1 ∈ m.keys
  · rw [afterCall_of_mem hkey]
    refine ⟨?_, h.nodup, fun key => ?_⟩
    · rw [hnew, if_pos ((h.keys _).mp hkey), List.append_nil]
    · rw [List.map_append, List.mem_append, ← h.keys, List.map_singleton, List.mem_singleton]
      exact ⟨Or.inl, fun hor => hor.elim id fun heq => heq ▸ hkey⟩
  · rw [afterCall_of_notMem hkey]
    have hkeys : (⟨m.entries ++ [call]⟩ : OrderedMap α).keys = m.keys ++ [call.1] := by
      rw [OrderedMap.keys, List.map_append]
      rfl
    refine ⟨?_, ?_, fun key => ?_⟩
    · rw [hnew, if_neg fun hmem => hkey ((h.keys _).mpr hmem)]
    · rw [hkeys]
      exact h.nodup.append (List.nodup_singleton _) (List.disjoint_singleton.mpr hkey)
    · rw [hkeys, List.map_append, List.mem_append, List.mem_append, h.keys]
      rfl

/-! ### Histories -/

theorem ofList_append_singleton (calls : List (String × α)) (call : String × α) :
    ofList (calls ++ [call]) = (ofList calls).afterCall call := by
  rw [ofList, List.foldl_append]
  rfl

theorem holds_ofList (calls : List (String × α)) : (ofList calls).Holds calls := by
  induction calls using List.reverseRecOn with
  | nil => exact holds_empty
  | append_singleton calls call ih =>
    rw [ofList_append_singleton]
    exact ih.afterCall call

theorem insert_ofList (calls : List (String × α)) (key : String) (value : α) :
    (ofList calls).insert key value =
      if key ∈ calls.map Prod.fst then .error key
      else .ok (ofList (calls ++ [(key, value)])) := by
  have hkeys := (holds_ofList calls).keys key
  by_cases hkey : key ∈ (ofList calls).keys
  · rw [insert_of_mem hkey, if_pos (hkeys.mp hkey)]
  · rw [insert_of_notMem hkey, if_neg fun hmem => hkey (hkeys.mpr hmem), ofList_append_singleton,
      afterCall_of_notMem hkey]

theorem size_ofList (calls : List (String × α)) :
    (ofList calls).size = (calls.map Prod.fst).toFinset.card := by
  have h := holds_ofList calls
  have hkeys : (calls.map Prod.fst).toFinset = (ofList calls).keys.toFinset := by
    ext key
    rw [List.mem_toFinset, List.mem_toFinset, h.keys]
  rw [hkeys, List.toFinset_card_of_nodup h.nodup, size, keys, List.length_map]

/-- After any history a map lists the calls under keys that were new, in their order. A call was
refused, with its key, exactly if an earlier one has its key, and it then changed nothing. What is
looked up under a key is what the first call under it inserted. -/
theorem ofList_keeps_first (calls : List (String × α)) :
    (ofList calls).toList = newCalls [] calls ∧
    (ofList calls).keys.Nodup ∧
    (∀ before key value after, calls = before ++ (key, value) :: after →
      (ofList before).insert key value =
        (if key ∈ before.map Prod.fst then .error key
          else .ok (ofList (before ++ [(key, value)]))) ∧
      (key ∈ before.map Prod.fst → ofList (before ++ [(key, value)]) = ofList before)) ∧
    (∀ key value, (ofList calls).get? key = some value ↔
      ∃ before after, calls = before ++ (key, value) :: after ∧ key ∉ before.map Prod.fst) ∧
    (∀ key, (ofList calls).contains key ↔ ((ofList calls).get? key).isSome) ∧
    (ofList calls).size = (calls.map Prod.fst).toFinset.card := by
  have h := holds_ofList calls
  refine ⟨h.entries, h.nodup, ?_, ?_, fun _ => contains_iff_isSome, size_ofList calls⟩
  · rintro before key value after -
    refine ⟨insert_ofList before key value, fun hkey => ?_⟩
    have hknown : key ∈ (ofList before).keys := ((holds_ofList before).keys key).mpr hkey
    rw [ofList_append_singleton, afterCall_of_mem hknown]
  · intro key value
    rw [get?_eq_some_iff h.nodup, h.entries, mem_newCalls_iff]
    exact and_iff_right List.not_mem_nil

def repeatedCalls : List (String × Nat) :=
  [("charlie", 7), ("alice", 5), ("charlie", 1), ("bob", 3)]

theorem ofList_keeps_first_repeated :
    (ofList [("charlie", 7), ("alice", 5)]).insert "charlie" 1 = .error "charlie" ∧
      (ofList repeatedCalls).toList = [("charlie", 7), ("alice", 5), ("bob", 3)] ∧
      (ofList repeatedCalls).get? "charlie" = some 7 := by
  obtain ⟨hentries, -, hcalls, hget, -⟩ := ofList_keeps_first repeatedCalls
  obtain ⟨hrefused, -⟩ := hcalls [("charlie", 7), ("alice", 5)] "charlie" 1 [("bob", 3)] rfl
  refine ⟨by rw [hrefused, if_pos (by decide)], by rw [hentries]; decide, ?_⟩
  exact (hget "charlie" 7).mpr ⟨[], _, rfl, by decide⟩

end TelemetryBindings.OrderedMap
