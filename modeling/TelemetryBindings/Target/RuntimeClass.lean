import TelemetryBindings.Instrument.Basic
import TelemetryBindings.Target.QualifiedName

/-!
# Classes of the runtime library

The classes of a runtime library that has one for every instrument type, and the type arguments
under which events and pings are used: an enum of their keys, or a placeholder if they have none.
-/
namespace TelemetryBindings

/-- The class of a type without its type argument; targets name the class of pings themselves. -/
def classWord (pingWord : String) : Variant → String
  | .boolean => "BooleanMetricType"
  | .counter => "CounterMetricType"
  | .customDistribution => "CustomDistributionMetricType"
  | .datetime => "DatetimeMetricType"
  | .event => "EventMetricType"
  | .jwe => "JweMetricType"
  | .labeledBoolean | .labeledCounter | .labeledString => "LabeledMetricType"
  | .memoryDistribution => "MemoryDistributionMetricType"
  | .quantity => "QuantityMetricType"
  | .string => "StringMetricType"
  | .stringList => "StringListMetricType"
  | .timespan => "TimespanMetricType"
  | .timingDistribution => "TimingDistributionMetricType"
  | .uuid => "UuidMetricType"
  | .ping => pingWord

/-- The class of a type in a namespace; labeled types are applied to the class they wrap. -/
def runtimeClass (space pingWord : String) (v : Variant) : QualifiedName :=
  match v.labeledInner? with
  | some inner => .applied space (classWord pingWord v) (.plain space (classWord pingWord inner))
  | none => .plain space (classWord pingWord v)

namespace Instrument

/-- The extra keys of an event or the reason codes of a ping, in declaration order. -/
def keys? : Instrument → Option (List String)
  | .metric m => m.extraKeyNames?
  | .ping p => some p.reasons.keys

/-- What the name of the enum of an instrument ends in. -/
def enumSuffix : Instrument → String
  | .metric _ => "Keys"
  | .ping _ => "ReasonCodes"

/-- The type argument of an instrument without keys. -/
def keylessType : Instrument → String
  | .metric _ => "NoExtraKeys"
  | .ping _ => "NoReasonCodes"

/-- The keys of an instrument that needs an enum for them. -/
def enumKeys? (i : Instrument) : Option (List String) :=
  match i.keys? with
  | some (key :: keys) => some (key :: keys)
  | _ => none

/-- The class of an instrument with its type argument: the enum of its keys if there are any, the
placeholder if there are none, and no argument for types without keys. -/
def appliedClass (i : Instrument) (cls enumName : String) : String :=
  match i.keys? with
  | some [] => cls ++ "<" ++ i.keylessType ++ ">"
  | some _ => cls ++ "<" ++ enumName ++ ">"
  | none => cls

end Instrument

end TelemetryBindings
