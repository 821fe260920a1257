import TelemetryBindings.Instrument.Metric
import TelemetryBindings.Instrument.Ping
import TelemetryBindings.Text.Words

/-!
# Instruments

What generated code declares: a metric or a ping.
-/
namespace TelemetryBindings

inductive Instrument where
  | metric (m : Metric)
  | ping (p : Ping)
  deriving DecidableEq, Repr

namespace Instrument

def name : Instrument → String
  | .metric m => m.name
  | .ping p => p.name

def description : Instrument → String
  | .metric m => m.description
  | .ping p => p.description

def origin : Instrument → String
  | .metric m => m.origin
  | .ping p => p.origin

def variant : Instrument → Variant
  | .metric m => m.variant
  | .ping _ => .ping

/-- The name in generated code. -/
def identifier (i : Instrument) : String := Text.camel i.name

/-- The definition that generated code refers back to. -/
def reference : Instrument → String
  | .metric m => m.identifier
  | .ping p => p.name

end Instrument

end TelemetryBindings
