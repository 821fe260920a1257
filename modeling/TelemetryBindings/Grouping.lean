import TelemetryBindings.Instrument.Basic

/-!
# Output units

Every category becomes one output unit, the internal category another, and all pings together one
more. Units are ordered by their identifier, and the instruments of a unit keep the order of their
declaration.
-/
namespace TelemetryBindings

/-- The validated instruments of a set of documents, in declaration order. -/
structure Model where
  metrics : List Metric := []
  pings : List Ping := []
  deriving DecidableEq, Repr

/-- What a unit was formed from. -/
inductive UnitKind where
  | category (name : String)
  | internal
  | pings
  deriving DecidableEq, Repr

/-- How diagnostics name the source of a unit. -/
def UnitKind.sourceName : UnitKind → String
  | .category name => name
  | .internal => ""
  | .pings => "(pings)"

structure OutputUnit where
  id : String
  kind : UnitKind
  instruments : List Instrument
  deriving DecidableEq, Repr

inductive GroupingError where
  | unitCollision (unit first second : String)
  | identifierCollision (unit identifier first second : String)
  deriving DecidableEq, Repr

def GroupingError.message : GroupingError → String
  | .unitCollision unit first second =>
    s!"categories '{first}' and '{second}' both map to the output unit '{unit}'"
  | .identifierCollision unit identifier first second =>
    s!"'{first}' and '{second}' both render as '{identifier}' in output unit '{unit}'"

def internalUnitId : String := "gleanInternalMetrics"

def pingsUnitId : String := "pings"

def unitId (category : String) : String :=
  if category = "" then internalUnitId else Text.camel category

def Metric.unitKind (m : Metric) : UnitKind :=
  if m.category = "" then .internal else .category m.category

/-- Adds instruments to the unit with the given identifier, which is created at its place in the
order if it is new. -/
def place (id : String) (kind : UnitKind) (instruments : List Instrument) :
    List OutputUnit → Except GroupingError (List OutputUnit)
  | [] => .ok [⟨id, kind, instruments⟩]
  | u :: us =>
    if id < u.id then .ok (⟨id, kind, instruments⟩ :: u :: us)
    else if id = u.id then
      if u.kind = kind then .ok ({ u with instruments := u.instruments ++ instruments } :: us)
      else .error (.unitCollision id u.kind.sourceName kind.sourceName)
    else do
      let rest ← place id kind instruments us
      return u :: rest

def placeMetric (units : List OutputUnit) (m : Metric) : Except GroupingError (List OutputUnit) :=
  place (unitId m.category) m.unitKind [.metric m] units

/-- The first two instruments with one name in generated code, searched from the front; `seen`
holds the names of the instruments before. -/
def firstCollision (unit : String) (seen : List (String × String)) :
    List Instrument → Option GroupingError
  | [] => none
  | i :: rest =>
    match seen.lookup i.identifier with
    | some first => some (.identifierCollision unit i.identifier first i.name)
    | none => firstCollision unit ((i.identifier, i.name) :: seen) rest

def OutputUnit.collision? (u : OutputUnit) : Option GroupingError :=
  firstCollision u.id [] u.instruments

/-- Partitions a model into units. -/
def group (model : Model) : Except GroupingError (List OutputUnit) := do
  let units ← model.metrics.foldlM placeMetric []
  let units ←
    if model.pings.isEmpty then .ok units
    else place pingsUnitId .pings (model.pings.map .ping) units
  match units.findSome? OutputUnit.collision? with
  | some error => .error error
  | none => .ok units

end TelemetryBindings
