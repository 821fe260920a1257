import TelemetryBindings.Schema.Vocabulary

/-!
# Instrument types and attributes

The closed set of instrument types, and the attribute keys that definitions may use.
-/
namespace TelemetryBindings

/-- The type of an instrument. Pings have a type of their own, which no metric may declare. -/
inductive Variant where
  | boolean
  | counter
  | customDistribution
  | datetime
  | event
  | jwe
  | labeledBoolean
  | labeledCounter
  | labeledString
  | memoryDistribution
  | quantity
  | string
  | stringList
  | timespan
  | timingDistribution
  | uuid
  | ping
  deriving DecidableEq, Repr

namespace Variant

instance : Vocabulary Variant where
  all := [.boolean, .counter, .customDistribution, .datetime, .event, .jwe, .labeledBoolean,
    .labeledCounter, .labeledString, .memoryDistribution, .quantity, .string, .stringList,
    .timespan, .timingDistribution, .uuid, .ping]
  word
    | .boolean => "boolean"
    | .counter => "counter"
    | .customDistribution => "custom_distribution"
    | .datetime => "datetime"
    | .event => "event"
    | .jwe => "jwe"
    | .labeledBoolean => "labeled_boolean"
    | .labeledCounter => "labeled_counter"
    | .labeledString => "labeled_string"
    | .memoryDistribution => "memory_distribution"
    | .quantity => "quantity"
    | .string => "string"
    | .stringList => "string_list"
    | .timespan => "timespan"
    | .timingDistribution => "timing_distribution"
    | .uuid => "uuid"
    | .ping => "ping"

/-- The tag by which documents name the type. -/
def tag (v : Variant) : String := Vocabulary.word v

def isMetric (v : Variant) : Bool := v != .ping

/-- The type that a labeled type wraps. -/
def labeledInner? : Variant → Option Variant
  | .labeledBoolean => some .boolean
  | .labeledCounter => some .counter
  | .labeledString => some .string
  | _ => none

end Variant

/-- The keys that definitions may use. -/
inductive Attribute where
  | type
  | description
  | bugs
  | dataReviews
  | notificationEmails
  | expires
  | lifetime
  | sendInPings
  | disabled
  | version
  | extraKeys
  | labels
  | timeUnit
  | memoryUnit
  | rangeMin
  | rangeMax
  | bucketCount
  | histogramType
  | unit
  | includeClientId
  | sendIfEmpty
  | reasons
  deriving DecidableEq, Repr

namespace Attribute

instance : Vocabulary Attribute where
  all := [.type, .description, .bugs, .dataReviews, .notificationEmails, .expires, .lifetime,
    .sendInPings, .disabled, .version, .extraKeys, .labels, .timeUnit, .memoryUnit, .rangeMin,
    .rangeMax, .bucketCount, .histogramType, .unit, .includeClientId, .sendIfEmpty, .reasons]
  word
    | .type => "type"
    | .description => "description"
    | .bugs => "bugs"
    | .dataReviews => "data_reviews"
    | .notificationEmails => "notification_emails"
    | .expires => "expires"
    | .lifetime => "lifetime"
    | .sendInPings => "send_in_pings"
    | .disabled => "disabled"
    | .version => "version"
    | .extraKeys => "extra_keys"
    | .labels => "labels"
    | .timeUnit => "time_unit"
    | .memoryUnit => "memory_unit"
    | .rangeMin => "range_min"
    | .rangeMax => "range_max"
    | .bucketCount => "bucket_count"
    | .histogramType => "histogram_type"
    | .unit => "unit"
    | .includeClientId => "include_client_id"
    | .sendIfEmpty => "send_if_empty"
    | .reasons => "reasons"

def key (a : Attribute) : String := Vocabulary.word a

theorem ofWord?_key (a : Attribute) : Vocabulary.ofWord? a.key = some a := by
  cases a <;> decide

end Attribute

end TelemetryBindings
