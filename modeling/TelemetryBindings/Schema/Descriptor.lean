import TelemetryBindings.Schema.Variant

/-!
# Attribute schemas

Which attributes a definition of each type must and may have. All metrics share a common part;
pings have a schema of their own.
-/
namespace TelemetryBindings

namespace Variant

/-- Attributes that only this type requires. -/
def ownRequired : Variant → List Attribute
  | .customDistribution => [.rangeMax, .bucketCount, .histogramType]
  | .quantity => [.unit]
  | .ping => [.description, .includeClientId, .bugs, .notificationEmails]
  | _ => []

/-- Attributes that only this type allows. -/
def ownOptional : Variant → List Attribute
  | .customDistribution => [.rangeMin, .unit]
  | .datetime | .timespan | .timingDistribution => [.timeUnit]
  | .event => [.extraKeys]
  | .labeledBoolean | .labeledCounter | .labeledString => [.labels]
  | .memoryDistribution => [.memoryUnit]
  | .ping => [.sendIfEmpty, .reasons, .dataReviews]
  | _ => []

def commonRequired : List Attribute :=
  [.type, .description, .bugs, .notificationEmails, .expires]

def commonOptional : List Attribute :=
  [.lifetime, .sendInPings, .disabled, .dataReviews, .version]

/-- Attributes that a definition must have, the common ones first. -/
def required (v : Variant) : List Attribute :=
  (if v.isMetric then commonRequired else []) ++ v.ownRequired

/-- Attributes that a definition may have, the common ones first. -/
def optional (v : Variant) : List Attribute :=
  (if v.isMetric then commonOptional else []) ++ v.ownOptional

def permits (v : Variant) (a : Attribute) : Bool :=
  (v.required ++ v.optional).contains a

end Variant

/-- A tag that names no instrument type. -/
structure UnknownType where
  tag : String
  deriving DecidableEq, Repr

def UnknownType.message (e : UnknownType) : String :=
  s!"unknown instrument type '{e.tag}'"

/-- The instrument type that a tag names. -/
def Variant.resolve (tag : String) : Except UnknownType Variant :=
  match Vocabulary.ofWord? tag with
  | some v => .ok v
  | none => .error ⟨tag⟩

end TelemetryBindings
