import TelemetryBindings.OrderedMap

/-!
# Pings
-/
namespace TelemetryBindings

structure Ping where
  name : String
  description : String
  includeClientId : Bool
  sendIfEmpty : Bool
  bugs : List String
  dataReviews : List String
  notificationEmails : List String
  /-- Reason codes with their descriptions. -/
  reasons : OrderedMap String
  /-- The document that defines the ping. -/
  origin : String
  deriving DecidableEq, Repr

namespace Ping

/-- Pings that the runtime library sends itself. -/
def builtinNames : List String := ["baseline", "metrics", "events", "deletion-request"]

def isBuiltin (name : String) : Bool := builtinNames.contains name

end Ping

end TelemetryBindings
