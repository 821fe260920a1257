import TelemetryBindings.Calendar
import TelemetryBindings.Document.Datum

/-!
# Options

Settings that change how definitions are validated, and the names under which generated code and
its runtime library live. Both are read from data: a mapping whose keys are settings, none of them
repeated or unknown, or a list that gives the settings in order.
-/
namespace TelemetryBindings

structure Options where
  /-- Accept reserved categories, ping names and keywords of the target. -/
  allowReserved : Bool := false
  /-- Version expiries at or below this major version have expired. -/
  expireByVersion : Option Nat := none
  /-- Date expiries before this day have expired. -/
  expirationDate : Option Date := none
  deriving DecidableEq, Repr, Inhabited

structure Namespaces where
  /-- Package or namespace of the generated code. -/
  generated : Option String := none
  /-- Namespace of the runtime library. -/
  runtime : Option String := none
  deriving DecidableEq, Repr, Inhabited

namespace Datum

def toBool? : Datum → Option Bool
  | .bool b => some b
  | _ => none

/-- A natural number below 2^32. -/
def toMajorVersion? : Datum → Option Nat
  | .unsigned n => if n.toNat < 0x100000000 then some n.toNat else none
  | .signed i => if 0 ≤ i.toInt ∧ i.toInt < 0x100000000 then some i.toInt.toNat else none
  | _ => none

def toDate? : Datum → Option Date
  | .string s => Date.parse? s
  | _ => none

def toString? : Datum → Option String
  | .string s => some s
  | _ => none

/-- A setting that may be left open by null. -/
def toNullable? {α : Type} (read : Datum → Option α) : Datum → Option (Option α)
  | .null | .absent => some none
  | .present d => (read d).map some
  | d => (read d).map some

/-- The values of the named settings, in the order of the names; `none` where a setting is not
given. Unknown and repeated names are refused, and so is a list with too many items. -/
def settings? (names : List String) : Datum → Option (List (Option Datum))
  | .mapping entries => do
    let named ← entries.mapM fun (key, value) => (toString? key).map (·, value)
    let keys := named.map (·.1)
    if keys.all names.contains ∧ keys.Nodup then
      return names.map fun name => named.lookup name
    else none
  | .sequence items =>
    if items.length ≤ names.length then
      some (items.map some ++ List.replicate (names.length - items.length) none)
    else none
  | _ => none

end Datum

/-- Reads a setting that has a default. -/
def readSetting {α : Type} (read : Datum → Option α) (default : α) : Option Datum → Option α
  | none => some default
  | some d => read d

namespace Options

def settingNames : List String := ["allow_reserved", "expire_by_version", "expiration_date"]

def ofDatum? (d : Datum) : Option Options := do
  match ← d.settings? settingNames with
  | [allow, version, date] =>
    let allowReserved ← readSetting Datum.toBool? false allow
    let expireByVersion ← readSetting (Datum.toNullable? Datum.toMajorVersion?) none version
    let expirationDate ← readSetting (Datum.toNullable? Datum.toDate?) none date
    return { allowReserved, expireByVersion, expirationDate }
  | _ => none

end Options

namespace Namespaces

def settingNames : List String := ["namespace", "glean_namespace"]

def ofDatum? (d : Datum) : Option Namespaces := do
  match ← d.settings? settingNames with
  | [generated, runtime] =>
    let generated ← readSetting (Datum.toNullable? Datum.toString?) none generated
    let runtime ← readSetting (Datum.toNullable? Datum.toString?) none runtime
    return { generated, runtime }
  | _ => none

def generatedOr (n : Namespaces) (default : String) : String := n.generated.getD default

def runtimeOr (n : Namespaces) (default : String) : String := n.runtime.getD default

end Namespaces

end TelemetryBindings
