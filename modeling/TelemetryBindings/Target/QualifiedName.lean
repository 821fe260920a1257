import TelemetryBindings.Text.Lines

/-!
# Qualified names

The name of a type of the runtime library in its namespace, possibly applied to a type argument as
in `LabeledMetricType<CounterMetricType>`.
-/
namespace TelemetryBindings

inductive QualifiedName where
  | plain (space name : String)
  | applied (space name : String) (argument : QualifiedName)
  deriving DecidableEq, Repr

namespace QualifiedName

/-- A name with its namespace in front; without a namespace, the name alone. -/
def qualify (space name : String) : String :=
  if space = "" then name else space ++ "." ++ name

def space : QualifiedName → String
  | .plain space _ | .applied space _ _ => space

def name : QualifiedName → String
  | .plain _ name | .applied _ name _ => name

/-- The name with all namespaces. -/
def text : QualifiedName → String
  | .plain space name => qualify space name
  | .applied space name argument => qualify space name ++ "<" ++ argument.text ++ ">"

/-- The name without namespaces, for code that imports it. -/
def simple : QualifiedName → String
  | .plain _ name => name
  | .applied _ name argument => name ++ "<" ++ argument.simple ++ ">"

/-- The paths of all types in the name, outermost first. -/
def imports : QualifiedName → List String
  | .plain space name => [qualify space name]
  | .applied space name argument => qualify space name :: argument.imports

end QualifiedName

end TelemetryBindings
