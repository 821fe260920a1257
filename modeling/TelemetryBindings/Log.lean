/-!
# Log records

What a stage has to say about its own progress. A record names the stage in a column of fixed
width.
-/
namespace TelemetryBindings.Log

inductive Level where
  | error
  | warn
  | info
  | debug
  | trace
  deriving DecidableEq, Repr

def Level.text : Level → String
  | .error => "ERROR"
  | .warn => "WARN"
  | .info => "INFO"
  | .debug => "DEBUG"
  | .trace => "TRACE"

/-- The number of levels that are more severe. -/
def Level.rank : Level → Nat
  | .error => 0
  | .warn => 1
  | .info => 2
  | .debug => 3
  | .trace => 4

structure Record where
  level : Level
  stage : String
  message : String
  deriving DecidableEq, Repr

end TelemetryBindings.Log
