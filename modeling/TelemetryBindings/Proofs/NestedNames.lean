import TelemetryBindings.Proofs.NamespaceEffects

/-!
# Names inside names

A name with type arguments is a chain of types, each in a namespace of its own. The paths of the
types, the text with namespaces and the text without them are three readings of this chain: both
texts are the types joined by opening brackets, with as many closing brackets at the end as there
are arguments.
-/
namespace TelemetryBindings.QualifiedName

open Text

/-! ### The chain of types -/

def depth : QualifiedName → Nat
  | .plain _ _ => 0
  | .applied _ _ argument => argument.depth + 1

/-- The types in the name, each with its namespace, outermost first. -/
def levels : QualifiedName → List (String × String)
  | .plain space name => [(space, name)]
  | .applied space name argument => (space, name) :: argument.levels

theorem length_levels (q : QualifiedName) : q.levels.length = q.depth + 1 := by
  induction q with
  | plain space name => rfl
  | applied space name argument ih => rw [levels, List.length_cons, ih, depth]

theorem levels_inSpace (space : String) (q : QualifiedName) :
    (q.inSpace space).levels = q.levels.map fun level => (space, level.2) := by
  induction q with
  | plain old name => rfl
  | applied old name argument ih => rw [inSpace, levels, levels, ih, List.map_cons]

theorem imports_eq_map_levels (q : QualifiedName) :
    q.imports = q.levels.map fun level => qualify level.1 level.2 := by
  induction q with
  | plain space name => rfl
  | applied space name argument ih => rw [imports, ih, levels, List.map_cons]

/-! ### Brackets -/

def closing (n : Nat) : String := String.ofList (List.replicate n '>')

theorem closing_succ (n : Nat) : closing (n + 1) = closing n ++ ">" := by
  rw [closing, List.replicate_succ', String.ofList_append]
  rfl

/-- One more type around a chain: its bracket closes behind those of the chain. -/
theorem around_joinWith (part : String) {parts : List String} (h : parts ≠ []) (n : Nat) :
    part ++ "<" ++ (joinWith "<" parts ++ closing n) ++ ">" =
      joinWith "<" (part :: parts) ++ closing (n + 1) := by
  rw [joinWith_cons "<" part h, closing_succ]
  simp only [String.append_assoc]

theorem text_eq_joinWith (q : QualifiedName) :
    q.text = joinWith "<" q.imports ++ closing q.depth := by
  induction q with
  | plain space name => exact String.append_empty.symm
  | applied space name argument ih =>
    have hne : argument.imports ≠ [] := by cases argument <;> exact List.cons_ne_nil _ _
    rw [text, ih, around_joinWith _ hne, imports, depth]

theorem simple_eq_text_inSpace (q : QualifiedName) : q.simple = (q.inSpace "").text := by
  have hqualify : ∀ name, qualify "" name = name := fun _ => if_pos rfl
  induction q with
  | plain space name => exact (hqualify name).symm
  | applied space name argument ih => rw [simple, ih, inSpace, text, hqualify]

/-- With `n` type arguments, one in the other, a name has `n + 1` paths: those of its types, each
behind its namespace and alone if that is empty. The text of the name is its paths joined by opening
brackets and then `n` closing ones, and its simple form is the text of the same types without
namespaces. -/
theorem views_agree (q : QualifiedName) :
    q.imports = q.levels.map (fun level =>
      if level.1 = "" then level.2 else level.1 ++ "." ++ level.2) ∧
    q.imports.length = q.depth + 1 ∧
    q.text = joinWith "<" q.imports ++ closing q.depth ∧
    (q.inSpace "").levels = q.levels.map (fun level => ("", level.2)) ∧
    q.simple = (q.inSpace "").text := by
  refine ⟨q.imports_eq_map_levels, ?_, q.text_eq_joinWith, levels_inSpace "" q,
    q.simple_eq_text_inSpace⟩
  rw [imports_eq_map_levels, List.length_map, length_levels]

/-- A namespace may be missing in the middle. -/
example : (applied "a.b" "LabeledType" (applied "" "ListType" (plain "c" "TextType"))).text =
    "a.b.LabeledType<ListType<c.TextType>>" := by
  decide

end TelemetryBindings.QualifiedName
