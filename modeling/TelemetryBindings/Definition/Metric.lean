import TelemetryBindings.Definition.Attributes
import TelemetryBindings.Instrument.Metric

/-!
# Reading metrics

`readMetric` reads one metric definition. It gives a metric exactly when it records no problem; the
origin and the disabled state of the metric come from the document and the options.
-/
namespace TelemetryBindings

namespace Definition

/-- The type that a metric definition declares; without it nothing else can be read. -/
def metricVariant (d : Definition) : Checked (Option Variant) :=
  match d.find? .type with
  | none => .reject (.missingAttribute .type)
  | some (.string tag) =>
    match Variant.resolve tag with
    | .ok v =>
      if v.isMetric then pure (some v) else .reject (.invalidValue Attribute.type.key tag)
    | .error cause => .reject (.unknownType cause)
  | some node => .reject (wrongType .type .string node)

def checkMetricName (p : Policy) (name : String) : Checked Unit :=
  if ¬Identifier.isIdentifier name Identifier.maxNameLength then
    .report (.invalidIdentifier .metricName name)
  else if p.reserves name then .report (.reservedIdentifier .metricName name)
  else pure ()

def checkSupport (p : Policy) (v : Variant) : Checked Unit :=
  match p.unsupported? v with
  | some cause => .report (.unsupportedVariant cause)
  | none => pure ()

def labeledType (d : Definition) (inner : LabeledInner) : Checked (Option MetricType) := do
  let labels ← d.labels
  return some (.labeled inner labels)

/-- The bounds and buckets of a distribution, which are read up to the first that is missing or
wrong. -/
def distributionType (d : Definition) : Checked (Option MetricType) := do
  let rangeMin ← d.integer .rangeMin
  match ← d.integer .rangeMax with
  | none => return none
  | some rangeMax =>
    match ← d.integer .bucketCount with
    | none => return none
    | some bucketCount =>
      match ← d.word HistogramType .histogramType with
      | none => return none
      | some histogram =>
        let unit ← d.string .unit
        return some (.customDistribution (rangeMin.getD 1) rangeMax bucketCount histogram unit)

/-- The attributes that only metrics of this type have. -/
def metricType (d : Definition) (p : Policy) : Variant → Checked (Option MetricType)
  | .boolean => pure (some .boolean)
  | .counter => pure (some .counter)
  | .customDistribution => d.distributionType
  | .datetime => do
    let unit ← d.wordOr .timeUnit .millisecond
    return some (.datetime unit)
  | .event => do
    let extraKeys ← d.extraKeys p
    return some (.event extraKeys)
  | .jwe => pure (some .jwe)
  | .labeledBoolean => d.labeledType .boolean
  | .labeledCounter => d.labeledType .counter
  | .labeledString => d.labeledType .string
  | .memoryDistribution => do
    let unit ← d.wordOr .memoryUnit .byte
    return some (.memoryDistribution unit)
  | .quantity => do
    let unit ← d.string .unit
    return unit.map .quantity
  | .string => pure (some .string)
  | .stringList => pure (some .stringList)
  | .timespan => do
    let unit ← d.wordOr .timeUnit .millisecond
    return some (.timespan unit)
  | .timingDistribution => do
    let unit ← d.wordOr .timeUnit .nanosecond
    return some (.timingDistribution unit)
  | .uuid => pure (some .uuid)
  | .ping => pure none

/-- The stores of a metric, read once its type is known. -/
def stores (d : Definition) (v : Variant) (type : Option MetricType) :
    Checked (Option (List String)) :=
  match type with
  | none => pure none
  | some _ => do
    let pings ← d.sendInPings v.defaultStore
    return some pings

/-- All attributes of a metric of a known type. The value is a metric if every required attribute
could be read. -/
def metricOf (d : Definition) (p : Policy) (origin category name : String) (v : Variant) :
    Checked (Option Metric) := do
  checkSchema v d
  checkMetricName p name
  checkSupport p v
  let description ← d.string .description
  let bugs ← d.bugs
  let dataReviews ← d.stringList .dataReviews
  let notificationEmails ← d.nonEmptyStringList .notificationEmails
  let expires ← d.expires
  let lifetime ← d.wordOr .lifetime Lifetime.ping
  let declaredDisabled ← d.boolOr .disabled false
  let version ← d.version
  let type ← d.metricType p v
  let sendInPings ← d.stores v type
  return do
    let expires ← expires
    let type ← type
    let description ← description
    let sendInPings ← sendInPings
    some {
      category, name, type, description, bugs, dataReviews, notificationEmails, expires, lifetime,
      sendInPings, version, origin
      disabled := declaredDisabled || expires.isExpired p.options }

end Definition

/-- A value that was read without problems. -/
def Checked.clean {α : Type} (c : Checked (Option α)) : Checked (Option α) :=
  if c.problems.isEmpty then c else ⟨none, c.problems⟩

/-- Reads one metric definition. -/
def readMetric (p : Policy) (origin category name : String) (node : Node) :
    Checked (Option Metric) :=
  match node with
  | .mapping d => Checked.clean do
    match ← Definition.metricVariant d with
    | none => return none
    | some v => Definition.metricOf d p origin category name v
  | _ => .reject (.wrongType name .mapping node.kind)

end TelemetryBindings
