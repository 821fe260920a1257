import TelemetryBindings.Schema.Vocabulary

/-!
# Lifetimes, units and histogram layouts
-/
namespace TelemetryBindings

/-- How long the value of a metric is kept before it is cleared. -/
inductive Lifetime where
  | ping
  | application
  | user
  deriving DecidableEq, Repr, Inhabited

instance : Vocabulary Lifetime where
  all := [.ping, .application, .user]
  word
    | .ping => "ping"
    | .application => "application"
    | .user => "user"

inductive TimeUnit where
  | nanosecond
  | microsecond
  | millisecond
  | second
  | minute
  | hour
  | day
  deriving DecidableEq, Repr

instance : Vocabulary TimeUnit where
  all := [.nanosecond, .microsecond, .millisecond, .second, .minute, .hour, .day]
  word
    | .nanosecond => "nanosecond"
    | .microsecond => "microsecond"
    | .millisecond => "millisecond"
    | .second => "second"
    | .minute => "minute"
    | .hour => "hour"
    | .day => "day"

inductive MemoryUnit where
  | byte
  | kilobyte
  | megabyte
  | gigabyte
  deriving DecidableEq, Repr

instance : Vocabulary MemoryUnit where
  all := [.byte, .kilobyte, .megabyte, .gigabyte]
  word
    | .byte => "byte"
    | .kilobyte => "kilobyte"
    | .megabyte => "megabyte"
    | .gigabyte => "gigabyte"

/-- How the buckets of a histogram are spaced. -/
inductive HistogramType where
  | linear
  | exponential
  deriving DecidableEq, Repr

instance : Vocabulary HistogramType where
  all := [.linear, .exponential]
  word
    | .linear => "linear"
    | .exponential => "exponential"

end TelemetryBindings
