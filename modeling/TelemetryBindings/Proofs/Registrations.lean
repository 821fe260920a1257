import Mathlib.Data.List.Induction
import Mathlib.Data.List.Sort
import TelemetryBindings.Proofs.ByteOrder
import TelemetryBindings.Target.Registry

/-!
# Registries after any registrations

A registration either replaces a factory where it stands or adds a name at the end, so that no name
is there twice. What is made under a name is therefore what its last registration makes, and no
registration of another name matters.
-/
namespace TelemetryBindings.Registry

variable {name other : String} {factory : TargetFactory} {r : Registry}

/-! ### One registration -/

def registered (r : Registry) : List String := r.factories.map Prod.fst

theorem lookup_cons_eq_ite (first : String) (old : TargetFactory)
    (rest : List (String × TargetFactory)) (name : String) :
    ((first, old) :: rest).lookup name = if name = first then some old else rest.lookup name := by
  rw [List.lookup_cons]
  by_cases hname : name = first
  · simp [hname]
  · rw [beq_false_of_ne hname, if_neg hname]

theorem map_fst_assign (name : String) (factory : TargetFactory)
    (factories : List (String × TargetFactory)) :
    (assign name factory factories).map Prod.fst =
      factories.map Prod.fst ++ if name ∈ factories.map Prod.fst then [] else [name] := by
  induction factories with
  | nil => rfl
  | cons entry rest ih =>
    obtain ⟨first, old⟩ := entry
    rw [assign]
    by_cases hfirst : first = name
    · simp [hfirst]
    · rw [if_neg hfirst, List.map_cons, ih, List.map_cons, List.cons_append]
      simp only [List.mem_cons, Ne.symm hfirst, false_or]

theorem lookup_assign (name : String) (factory : TargetFactory)
    (factories : List (String × TargetFactory)) (other : String) :
    (assign name factory factories).lookup other =
      if other = name then some factory else factories.lookup other := by
  induction factories with
  | nil => exact lookup_cons_eq_ite name factory [] other
  | cons entry rest ih =>
    obtain ⟨first, old⟩ := entry
    rw [assign]
    by_cases hfirst : first = name
    · rw [if_pos hfirst, lookup_cons_eq_ite, lookup_cons_eq_ite, hfirst]
      split_ifs <;> rfl
    · rw [if_neg hfirst, lookup_cons_eq_ite, lookup_cons_eq_ite, ih]
      split_ifs with hother hname
      · exact absurd (hother.symm.trans hname) hfirst
      · rfl
      · rfl
      · rfl

theorem registered_register (r : Registry) (name : String) (factory : TargetFactory) :
    (r.register name factory).registered =
      r.registered ++ if name ∈ r.registered then [] else [name] :=
  map_fst_assign name factory r.factories

theorem mem_registered_register :
    other ∈ (r.register name factory).registered ↔ other ∈ r.registered ∨ other = name := by
  rw [registered_register, List.mem_append]
  split_ifs with hname
  · exact ⟨fun h => h.imp_right fun hnil => absurd hnil List.not_mem_nil,
      fun h => Or.inl (h.elim id fun heq => heq ▸ hname)⟩
  · rw [List.mem_singleton]

theorem nodup_registered_register (h : r.registered.Nodup) :
    (r.register name factory).registered.Nodup := by
  rw [registered_register]
  split_ifs with hname
  · rwa [List.append_nil]
  · exact h.append (List.nodup_singleton _) (List.disjoint_singleton.mpr hname)

theorem create_eq_ok_iff {namespaces : Namespaces} {target : Target} :
    r.create name namespaces = .ok target ↔
      ∃ factory, r.factories.lookup name = some factory ∧ factory namespaces = target := by
  rw [create]
  cases r.factories.lookup name <;> simp

theorem create_of_notMem (h : name ∉ r.registered) (namespaces : Namespaces) :
    r.create name namespaces = .error ⟨name, r.names⟩ := by
  have hnone : r.factories.lookup name = none := by
    rw [List.lookup_eq_none_iff]
    intro entry hentry
    exact bne_iff_ne.mpr fun heq => h (heq ▸ List.mem_map_of_mem hentry)
  rw [create, hnone]

theorem create_register_self (r : Registry) (name : String) (factory : TargetFactory)
    (namespaces : Namespaces) :
    (r.register name factory).create name namespaces = .ok (factory namespaces) := by
  rw [create, register, lookup_assign, if_pos rfl]

/-- What another name makes stays as it was. -/
theorem create_register_of_ne (h : other ≠ name) {namespaces : Namespaces} {target : Target} :
    (r.register name factory).create other namespaces = .ok target ↔
      r.create other namespaces = .ok target := by
  rw [create_eq_ok_iff, create_eq_ok_iff, register, lookup_assign, if_neg h]

/-! ### Names -/

theorem names_perm_registered (r : Registry) : r.names.Perm r.registered :=
  List.mergeSort_perm _ _

theorem mem_names : name ∈ r.names ↔ name ∈ r.registered := r.names_perm_registered.mem_iff

/-- The sorted names ascend strictly because none of them is there twice. -/
theorem pairwise_names (h : r.registered.Nodup) :
    r.names.Pairwise fun s t => Text.bytes s < Text.bytes t := by
  have hsorted : r.names.Pairwise (· ≤ ·) := List.sortedLE_mergeSort.pairwise
  have hnodup : r.names.Nodup := r.names_perm_registered.nodup_iff.mpr h
  simp only [Text.bytes_lt_iff]
  exact hsorted.imp₂ (fun s t hle hne => lt_of_le_of_ne hle hne) hnodup

/-! ### Histories -/

def ofList (registrations : List (String × TargetFactory)) : Registry :=
  registrations.foldl (fun r entry => r.register entry.1 entry.2) empty

theorem ofList_append_singleton (registrations : List (String × TargetFactory))
    (entry : String × TargetFactory) :
    ofList (registrations ++ [entry]) = (ofList registrations).register entry.1 entry.2 := by
  rw [ofList, List.foldl_append]
  rfl

theorem mem_registered_ofList {registrations : List (String × TargetFactory)} :
    name ∈ (ofList registrations).registered ↔ name ∈ registrations.map Prod.fst := by
  induction registrations using List.reverseRecOn with
  | nil => rfl
  | append_singleton registrations entry ih =>
    rw [ofList_append_singleton, mem_registered_register, ih, List.map_append, List.mem_append]
    exact or_congr_right List.mem_singleton.symm

theorem nodup_registered_ofList (registrations : List (String × TargetFactory)) :
    (ofList registrations).registered.Nodup := by
  induction registrations using List.reverseRecOn with
  | nil => exact List.nodup_nil
  | append_singleton registrations entry ih =>
    rw [ofList_append_singleton]
    exact nodup_registered_register ih

/-- Registrations of other names do not matter for what a name makes. -/
theorem create_ofList (before : List (String × TargetFactory)) (factory : TargetFactory)
    {after : List (String × TargetFactory)} (h : name ∉ after.map Prod.fst)
    (namespaces : Namespaces) :
    (ofList (before ++ (name, factory) :: after)).create name namespaces =
      .ok (factory namespaces) := by
  induction after using List.reverseRecOn with
  | nil =>
    rw [ofList_append_singleton]
    exact create_register_self _ name factory namespaces
  | append_singleton after entry ih =>
    rw [List.map_append, List.mem_append, not_or, List.map_singleton, List.mem_singleton] at h
    rw [← List.cons_append, ← List.append_assoc, ofList_append_singleton]
    exact (create_register_of_ne h.2).mpr (ih h.1)

/-- A name that was never registered is refused with the names that were. -/
theorem create_ofList_of_notMem {registrations : List (String × TargetFactory)}
    (h : name ∉ registrations.map Prod.fst) (namespaces : Namespaces) :
    (ofList registrations).create name namespaces =
      .error ⟨name, (ofList registrations).names⟩ :=
  create_of_notMem (fun hmem => h (mem_registered_ofList.mp hmem)) namespaces

/-- After any registrations the names are those registered, strictly ascending by their bytes; none
of the names that the registry holds is left out, since it holds none of them twice. A registered
name makes what its last registration makes, and any other is refused with all names. What a name
makes is not changed by registering another. -/
theorem ofList_makes_last (registrations : List (String × TargetFactory)) :
    ((ofList registrations).names.Pairwise fun s t => Text.bytes s < Text.bytes t) ∧
    (∀ name, name ∈ (ofList registrations).names ↔ name ∈ registrations.map Prod.fst) ∧
    (ofList registrations).names.Perm (ofList registrations).registered ∧
    (∀ before name factory after, registrations = before ++ (name, factory) :: after →
      name ∉ after.map Prod.fst → ∀ namespaces,
        (ofList registrations).create name namespaces = .ok (factory namespaces)) ∧
    (∀ name namespaces, name ∉ registrations.map Prod.fst →
      ∃ e, (ofList registrations).create name namespaces = .error e ∧ e.name = name ∧
        e.known = (ofList registrations).names ∧
        e.message = "unknown target '" ++ name ++ "', expected one of: " ++
          Text.joinWith ", " (ofList registrations).names) ∧
    ∀ name factory other, other ≠ name → ∀ namespaces target,
      ((ofList registrations).register name factory).create other namespaces = .ok target ↔
        (ofList registrations).create other namespaces = .ok target := by
  refine ⟨pairwise_names (nodup_registered_ofList registrations),
    fun _ => mem_names.trans mem_registered_ofList, names_perm_registered _, ?_, ?_, ?_⟩
  · rintro before name factory after rfl hlast namespaces
    exact create_ofList before factory hlast namespaces
  · intro name namespaces h
    exact ⟨_, create_ofList_of_notMem h namespaces, rfl, rfl, rfl⟩
  · intro name factory other h namespaces target
    exact create_register_of_ne h

def replacingRegistrations : List (String × TargetFactory) :=
  [("swift", javascript), ("kotlin", kotlin), ("swift", swift)]

theorem ofList_makes_last_replaced :
    (ofList replacingRegistrations).create "swift" {} = .ok (swift {}) ∧
      (∃ e, (ofList replacingRegistrations).create "cobol" {} = .error e ∧
        e.message = "unknown target 'cobol', expected one of: kotlin, swift") ∧
      ((ofList replacingRegistrations).register "cobol" javascript).create "swift" {} =
        .ok (swift {}) := by
  obtain ⟨-, -, -, hlast, hunknown, hothers⟩ := ofList_makes_last replacingRegistrations
  have hswift := hlast [("swift", javascript), ("kotlin", kotlin)] "swift" swift [] rfl
    List.not_mem_nil {}
  obtain ⟨e, hcreate, -, -, hmessage⟩ := hunknown "cobol" {} (by decide)
  have hnames : (ofList replacingRegistrations).names = ["kotlin", "swift"] := by
    have hadded : (ofList replacingRegistrations).factories.map (·.1) = ["swift", "kotlin"] := rfl
    rw [names, hadded]
    simp [List.mergeSort]
  refine ⟨hswift, ⟨e, hcreate, ?_⟩,
    (hothers "cobol" javascript "swift" (by decide) {} _).mpr hswift⟩
  rw [hmessage, hnames]
  rfl

end TelemetryBindings.Registry
