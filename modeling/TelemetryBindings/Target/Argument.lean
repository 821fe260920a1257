import TelemetryBindings.Instrument.Basic
import TelemetryBindings.Text.Lines

/-!
# Constructor arguments

The arguments from which generated code constructs an instrument, in the order in which every
target writes them. A target spells names and values in its own way. Extra keys and labels are not
among them, since every target has its own place for those.
-/
namespace TelemetryBindings

/-- A value to be written in the syntax of a target. -/
inductive Literal where
  | bool (value : Bool)
  | int (value : Int)
  | string (value : String)
  | lifetime (value : Lifetime)
  | timeUnit (value : TimeUnit)
  | memoryUnit (value : MemoryUnit)
  | histogramType (value : HistogramType)
  | list (items : List String)
  /-- A set, written in the given order. -/
  | set (items : List String)
  deriving DecidableEq, Repr

structure Argument where
  /-- The name in snake case. -/
  name : String
  value : Literal
  deriving DecidableEq, Repr

/-- The arguments of every metric, for a metric declared under the given name. -/
def Metric.argumentsNamed (m : Metric) (name : String) : List Argument :=
  [⟨"category", .string m.category⟩, ⟨"name", .string name⟩,
    ⟨"send_in_pings", .list m.sendInPings⟩, ⟨"lifetime", .lifetime m.lifetime⟩,
    ⟨"disabled", .bool m.disabled⟩]

/-- The arguments of every metric. -/
def Metric.commonArguments (m : Metric) : List Argument := m.argumentsNamed m.name

/-- The arguments that only metrics of this type have. -/
def MetricType.arguments : MetricType → List Argument
  | .customDistribution rangeMin rangeMax bucketCount histogram _ =>
    [⟨"range_min", .int rangeMin⟩, ⟨"range_max", .int rangeMax⟩,
      ⟨"bucket_count", .int bucketCount⟩, ⟨"histogram_type", .histogramType histogram⟩]
  | .datetime unit | .timespan unit | .timingDistribution unit => [⟨"time_unit", .timeUnit unit⟩]
  | .memoryDistribution unit => [⟨"memory_unit", .memoryUnit unit⟩]
  | _ => []

def Metric.arguments (m : Metric) : List Argument :=
  m.commonArguments ++ m.type.arguments

def Ping.arguments (p : Ping) : List Argument :=
  [⟨"name", .string p.name⟩, ⟨"include_client_id", .bool p.includeClientId⟩,
    ⟨"send_if_empty", .bool p.sendIfEmpty⟩, ⟨"reason_codes", .list p.reasons.keys⟩]

def Instrument.arguments : Instrument → List Argument
  | .metric m => m.arguments
  | .ping p => p.arguments

/-- Arguments as a target spells them, in camel case and with a literal for each value. -/
def spellArguments (literal : Literal → String) (arguments : List Argument) :
    List (String × String) :=
  arguments.map fun a => (Text.camel a.name, literal a.value)

/-- One argument a line, with commas between neighbours. -/
def argumentLines (arguments : List (String × String)) (assign indent : String) : String :=
  Text.joinWith ",\n" (arguments.map fun (name, value) => indent ++ name ++ assign ++ value)

end TelemetryBindings
