import TelemetryBindings.Definition.Ping
import TelemetryBindings.Log

/-!
# Reading documents

A definition document declares by its schema whether it defines metrics, under their categories, or
pings. `findings` lists what a document holds in reading order: problems, metrics and pings. It
looks at one document alone; definitions that repeat one of another document are found when
findings are collected.
-/
namespace TelemetryBindings

/-- A parsed definition document and where it came from. -/
structure SourceDocument where
  origin : String
  root : Node
  deriving Repr

/-- What reading a document gives, piece by piece. -/
inductive Finding where
  | fault (error : SchemaError)
  | metric (location : Location) (found : Metric)
  | ping (location : Location) (found : Ping)
  deriving DecidableEq, Repr

/-- What a document says that it defines. -/
inductive DocumentKind where
  | metrics
  | pings
  deriving DecidableEq, Repr

namespace DocumentKind

/-- The schema that a document of this kind declares. -/
def schema : DocumentKind → String
  | .metrics => "moz://mozilla.org/schemas/glean/metrics/1-0-0"
  | .pings => "moz://mozilla.org/schemas/glean/pings/1-0-0"

def ofSchema? (schema : String) : Option DocumentKind :=
  [metrics, pings].find? fun kind => kind.schema == schema

def noun : DocumentKind → String
  | .metrics => "metrics"
  | .pings => "pings"

end DocumentKind

/-- The key under which a document declares its schema. -/
def schemaKey : String := "$schema"

/-- The entry is a definition and no setting of the document. -/
def isDefinitionKey (key : String) : Bool := key != schemaKey && key != "no_lint"

/-- The category of metrics that the runtime library defines itself is spelled out in documents and
empty in the model. -/
def categoryOfKey (key : String) : String :=
  if key = "glean.internal.metrics" then "" else key

namespace Policy

/-- The problem with the key of a category. -/
def categoryProblem? (p : Policy) (key : String) : Option Problem :=
  if ¬Identifier.isCategory key then some (.invalidIdentifier .category key)
  else if p.reservesCategory key then some (.reservedIdentifier .category key)
  else none

end Policy

/-- The findings of one definition: its problems, or what was read if it is kept. -/
def Checked.findings {α : Type} (c : Checked (Option α)) (location : Location)
    (keep : Option (α → Finding)) : List Finding :=
  c.problems.map (fun problem => .fault ⟨location, problem⟩) ++
    (keep.bind fun finding => c.value.map finding).toList

def metricFindings (p : Policy) (origin key : String) (accepted : Bool) :
    String × Node → List Finding
  | (name, node) =>
    let location := .metric key name
    (readMetric p origin (categoryOfKey key) name node).findings location
      (if accepted then some (.metric location) else none)

/-- The metrics of a category; under a key with a problem they are validated and then dropped. -/
def categoryFindings (p : Policy) (origin : String) : String × Node → List Finding
  | (key, node) =>
    let atDocument := fun problem => Finding.fault ⟨.document origin, problem⟩
    let flaw := p.categoryProblem? key
    flaw.toList.map atDocument ++
      match node with
      | .mapping definitions => definitions.flatMap (metricFindings p origin key flaw.isNone)
      | _ => [atDocument (.wrongType key .mapping node.kind)]

def pingFindings (p : Policy) (origin : String) : String × Node → List Finding
  | (name, node) => (readPing p origin name node).findings (.ping name) (some (.ping (.ping name)))

namespace SourceDocument

/-- The kind of a document and its entries. -/
def open? (d : SourceDocument) : Except Problem (DocumentKind × List (String × Node)) :=
  match d.root with
  | .mapping entries =>
    match d.root.get? schemaKey with
    | none => .error (.invalidDocument .missingSchema)
    | some (.string schema) =>
      match DocumentKind.ofSchema? schema with
      | some kind => .ok (kind, entries)
      | none => .error (.invalidDocument (.unknownSchema schema))
    | some node => .error (.wrongType schemaKey .string node.kind)
  | root => .error (.invalidDocument (.rootNotMapping root.kind))

def kind? (d : SourceDocument) : Option DocumentKind :=
  match d.open? with
  | .ok (kind, _) => some kind
  | .error _ => none

/-- The entries of a document that are definitions. -/
def definitions (entries : List (String × Node)) : List (String × Node) :=
  entries.filter fun entry => isDefinitionKey entry.1

def findings (p : Policy) (d : SourceDocument) : List Finding :=
  match d.open? with
  | .error problem => [.fault ⟨.document d.origin, problem⟩]
  | .ok (.metrics, entries) => (definitions entries).flatMap (categoryFindings p d.origin)
  | .ok (.pings, entries) => (definitions entries).flatMap (pingFindings p d.origin)

def log (d : SourceDocument) : List Log.Record :=
  d.kind?.toList.map fun kind => ⟨.debug, "     model", s!"Reading {kind.noun} from '{d.origin}'"⟩

end SourceDocument

end TelemetryBindings
