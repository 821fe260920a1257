import TelemetryBindings.Target.Basic

/-!
# Registries of targets

A registry maps names to functions that make a target for given namespaces. Registering a name
again replaces what it makes.
-/
namespace TelemetryBindings

abbrev TargetFactory := Namespaces → Target

structure UnknownTarget where
  name : String
  /-- The registered names, ascending. -/
  known : List String
  deriving DecidableEq, Repr

def UnknownTarget.message (e : UnknownTarget) : String :=
  s!"unknown target '{e.name}', expected one of: " ++ Text.joinWith ", " e.known

structure Registry where
  factories : List (String × TargetFactory)

namespace Registry

def empty : Registry := ⟨[]⟩

/-- Replaces the factory of a name that is registered, or adds the name at the end. -/
def assign (name : String) (factory : TargetFactory) :
    List (String × TargetFactory) → List (String × TargetFactory)
  | [] => [(name, factory)]
  | (n, f) :: rest =>
    if n = name then (n, factory) :: rest else (n, f) :: assign name factory rest

def register (r : Registry) (name : String) (factory : TargetFactory) : Registry :=
  ⟨assign name factory r.factories⟩

/-- The registered names, ascending. -/
def names (r : Registry) : List String := (r.factories.map (·.1)).mergeSort (· ≤ ·)

def create (r : Registry) (name : String) (namespaces : Namespaces) :
    Except UnknownTarget Target :=
  match r.factories.lookup name with
  | some factory => .ok (factory namespaces)
  | none => .error ⟨name, r.names⟩

def javascript : TargetFactory := fun _ => .javascript

def kotlin : TargetFactory := fun n => .kotlin (Kotlin.ofNamespaces n)

def swift : TargetFactory := fun n => .swift (Swift.ofNamespaces n)

/-- The registry of the three targets of this library. -/
def builtin : Registry :=
  ((empty.register "javascript" javascript).register "kotlin" kotlin).register "swift" swift

end Registry

end TelemetryBindings
