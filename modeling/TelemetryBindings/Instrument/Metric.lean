import TelemetryBindings.Expiry
import TelemetryBindings.OrderedMap
import TelemetryBindings.Schema.Scale
import TelemetryBindings.Schema.Variant

/-!
# Metrics
-/
namespace TelemetryBindings

/-- The metric that a labeled metric wraps. -/
inductive LabeledInner where
  | boolean
  | counter
  | string
  deriving DecidableEq, Repr

def LabeledInner.variant : LabeledInner → Variant
  | .boolean => .boolean
  | .counter => .counter
  | .string => .string

/-- The type of a metric together with what only that type declares. -/
inductive MetricType where
  | boolean
  | counter
  | customDistribution (rangeMin rangeMax bucketCount : Int) (histogram : HistogramType)
      (unit : Option String)
  | datetime (unit : TimeUnit)
  /-- Every extra key has a description. -/
  | event (extraKeys : OrderedMap String)
  | jwe
  /-- Without labels, the labels are dynamic. -/
  | labeled (inner : LabeledInner) (labels : Option (List String))
  | memoryDistribution (unit : MemoryUnit)
  | quantity (unit : String)
  | string
  | stringList
  | timespan (unit : TimeUnit)
  | timingDistribution (unit : TimeUnit)
  | uuid
  deriving DecidableEq, Repr

namespace MetricType

def variant : MetricType → Variant
  | .boolean => .boolean
  | .counter => .counter
  | .customDistribution .. => .customDistribution
  | .datetime _ => .datetime
  | .event _ => .event
  | .jwe => .jwe
  | .labeled .boolean _ => .labeledBoolean
  | .labeled .counter _ => .labeledCounter
  | .labeled .string _ => .labeledString
  | .memoryDistribution _ => .memoryDistribution
  | .quantity _ => .quantity
  | .string => .string
  | .stringList => .stringList
  | .timespan _ => .timespan
  | .timingDistribution _ => .timingDistribution
  | .uuid => .uuid

end MetricType

/-- The ping that stores a metric of this type unless its definition names others. -/
def Variant.defaultStore : Variant → String
  | .event => "events"
  | _ => "metrics"

structure Metric where
  /-- Empty for the internal category. -/
  category : String
  name : String
  type : MetricType
  description : String
  bugs : List String
  dataReviews : List String
  notificationEmails : List String
  expires : Expiry
  lifetime : Lifetime
  /-- The pings that store the metric, in declaration order. -/
  sendInPings : List String
  disabled : Bool
  version : Nat
  /-- The document that defines the metric. -/
  origin : String
  deriving DecidableEq, Repr

namespace Metric

def variant (m : Metric) : Variant := m.type.variant

/-- `category.name`, or the name alone in the internal category. -/
def identifier (m : Metric) : String :=
  if m.category = "" then m.name else m.category ++ "." ++ m.name

/-- The declared extra keys of an event, in declaration order. -/
def extraKeyNames? (m : Metric) : Option (List String) :=
  match m.type with
  | .event extraKeys => some extraKeys.keys
  | _ => none

end Metric

end TelemetryBindings
