import TelemetryBindings.Definition.Document
import TelemetryBindings.Grouping

/-!
# Building models

A builder collects the findings of documents. It keeps the first definition of every metric and
every ping and records each later one as an error. A model is built only if no error was recorded,
so that a failed build reports every problem at once.
-/
namespace TelemetryBindings

structure Builder where
  policy : Policy
  model : Model := {}
  errors : List SchemaError := []
  /-- Category and name of every metric in the model. -/
  seenMetrics : List (String × String) := []
  /-- The name of every ping in the model. -/
  seenPings : List String := []
  /-- A document that declares pings was added. -/
  sawPings : Bool := false
  deriving Repr

namespace Builder

def fail (b : Builder) (e : SchemaError) : Builder := { b with errors := b.errors ++ [e] }

/-- Adds one finding; of two definitions of one instrument the first is kept. -/
def record (b : Builder) : Finding → Builder
  | .fault e => b.fail e
  | .metric location m =>
    if (m.category, m.name) ∈ b.seenMetrics then b.fail ⟨location, .duplicateDefinition⟩
    else { b with
      model := { b.model with metrics := b.model.metrics ++ [m] }
      seenMetrics := (m.category, m.name) :: b.seenMetrics }
  | .ping location p =>
    if p.name ∈ b.seenPings then b.fail ⟨location, .duplicateDefinition⟩
    else { b with
      model := { b.model with pings := b.model.pings ++ [p] }
      seenPings := p.name :: b.seenPings }

def addDocument (b : Builder) (d : SourceDocument) : Builder :=
  let b := (d.findings b.policy).foldl record b
  { b with sawPings := b.sawPings || d.kind? == some .pings }

def addDocuments (b : Builder) (documents : List SourceDocument) : Builder :=
  documents.foldl addDocument b

/-- The model, or all errors of all documents. -/
def build (b : Builder) : Except (List SchemaError) Model :=
  if b.errors.isEmpty then .ok b.model else .error b.errors

/-- Pings of a metric that no document declares and that are not built in. -/
def undeclaredPings (b : Builder) (m : Metric) : List String :=
  m.sendInPings.filter fun ping =>
    !(b.model.pings.map (·.name)).contains ping && !Ping.isBuiltin ping

def undeclaredPingWarnings (b : Builder) : List Log.Record :=
  b.model.metrics.flatMap fun m => (b.undeclaredPings m).map fun ping =>
    ⟨.warn, "     model", s!"Metric '{m.identifier}' is sent in ping '{ping}', " ++
      "which is not declared in any pings document"⟩

/-- What `build` has to say. Undeclared pings deserve a warning only where pings are declared at
all. -/
def buildLog (b : Builder) : List Log.Record :=
  if b.errors.isEmpty then
    (if b.sawPings then b.undeclaredPingWarnings else []) ++
      [⟨.info, "     model", s!"Validated {b.model.metrics.length} metric(s) and " ++
        s!"{b.model.pings.length} ping(s)"⟩]
  else []

def optionText {α : Type} (text : α → String) : Option α → String
  | none => "None"
  | some a => "Some(" ++ text a ++ ")"

/-- The state of a builder in one line. -/
def summary (b : Builder) : String :=
  let options := b.policy.options
  "ModelBuilder \x7b options: Options \x7b allow_reserved: " ++ toString options.allowReserved ++
    ", expire_by_version: " ++ optionText toString options.expireByVersion ++
    ", expiration_date: " ++ optionText Date.text options.expirationDate ++
    " \x7d, target: " ++ optionText (fun t => "\"" ++ t.name ++ "\"") b.policy.target ++
    s!", metrics: {b.model.metrics.length}, pings: {b.model.pings.length}" ++
    s!", errors: {b.errors.length}, .. \x7d"

end Builder

/-- Builds a model from a complete set of documents. -/
def buildModel (p : Policy) (documents : List SourceDocument) :
    Except (List SchemaError) Model :=
  (Builder.addDocuments { policy := p } documents).build

def buildModelLog (p : Policy) (documents : List SourceDocument) : List Log.Record :=
  documents.flatMap SourceDocument.log ++
    (Builder.addDocuments { policy := p } documents).buildLog

end TelemetryBindings
