import TelemetryBindings.Builder
import TelemetryBindings.Target.Registry

/-!
# Compiling

From definition documents to generated ones: validate, group into units, render. Nothing is
rendered unless all documents validate. `check` does everything but the rendering.
-/
namespace TelemetryBindings

inductive CompileError where
  | unknownTarget (cause : UnknownTarget)
  | build (errors : List SchemaError)
  | grouping (cause : GroupingError)
  | unsupportedVariant (cause : UnsupportedVariant)
  deriving DecidableEq, Repr

def CompileError.message : CompileError → String
  | .unknownTarget cause => cause.message
  | .build errors => SchemaError.report errors
  | .grouping cause => cause.message
  | .unsupportedVariant cause => cause.message

/-- Validates documents and partitions their instruments. -/
def unitsOf (p : Policy) (documents : List SourceDocument) :
    Except CompileError (Model × List OutputUnit) := do
  let model ← (buildModel p documents).mapError .build
  let units ← (group model).mapError .grouping
  return (model, units)

def compile (registry : Registry) (documents : List SourceDocument) (targetName : String)
    (namespaces : Namespaces) (options : Options) : Except CompileError (List Document) := do
  let target ← (registry.create targetName namespaces).mapError .unknownTarget
  let (_, units) ← unitsOf ⟨options, some target⟩ documents
  (units.mapM target.renderUnit).mapError .unsupportedVariant

/-- The target that definitions are checked against, if one is named; namespaces do not matter. -/
def Registry.choose (registry : Registry) :
    Option String → Except CompileError (Option Target)
  | none => .ok none
  | some name => ((registry.create name {}).map some).mapError .unknownTarget

/-- Validates documents, against a target if one is named, without rendering. -/
def check (registry : Registry) (documents : List SourceDocument) (targetName : Option String)
    (options : Options) : Except CompileError Model := do
  let target ← registry.choose targetName
  let (model, _) ← unitsOf ⟨options, target⟩ documents
  return model

def groupLog (units : List OutputUnit) : List Log.Record :=
  [⟨.debug, "  grouping", s!"Formed {units.length} unit(s)"⟩]

def OutputUnit.log (u : OutputUnit) : Log.Record :=
  ⟨.debug, " translate",
    s!"Rendering unit '{u.id}' with {u.instruments.length} instrument(s)"⟩

/-- The log of rendering units one after the other, up to the first that fails. -/
def renderLog (target : Target) : List OutputUnit → List Log.Record
  | [] => []
  | u :: rest =>
    u.log :: match target.renderUnit u with
      | .ok _ => renderLog target rest
      | .error _ => []

def unitsLog (p : Policy) (documents : List SourceDocument) : List Log.Record :=
  buildModelLog p documents ++
    match unitsOf p documents with
    | .ok (_, units) => groupLog units
    | .error _ => []

def compileLog (registry : Registry) (documents : List SourceDocument) (targetName : String)
    (namespaces : Namespaces) (options : Options) : List Log.Record :=
  match registry.create targetName namespaces with
  | .error _ => []
  | .ok target =>
    let p : Policy := ⟨options, some target⟩
    unitsLog p documents ++
      match unitsOf p documents with
      | .ok (_, units) => renderLog target units
      | .error _ => []

def checkLog (registry : Registry) (documents : List SourceDocument) (targetName : Option String)
    (options : Options) : List Log.Record :=
  match registry.choose targetName with
  | .ok target => unitsLog ⟨options, target⟩ documents
  | .error _ => []

end TelemetryBindings
