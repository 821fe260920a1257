import TelemetryBindings.Instrument.Ping
import TelemetryBindings.Options
import TelemetryBindings.Target.Basic

/-!
# Policies

What a set of definitions is validated against beside its schemas: the options, and the keywords
and supported types of a target, if one is chosen.
-/
namespace TelemetryBindings

structure Policy where
  options : Options := {}
  target : Option Target := none
  deriving DecidableEq, Repr

namespace Policy

/-- The spellings under which a target may write a name. -/
def spellings (name : String) : List String := [name, Text.camel name, Text.pascal name]

/-- One of the spellings of a name is a keyword of the target. -/
def isKeyword (p : Policy) (name : String) : Bool :=
  p.target.any fun t => (spellings name).any t.reservedWords.contains

/-- The name may not be used because of the target. -/
def reserves (p : Policy) (name : String) : Bool :=
  !p.options.allowReserved && p.isKeyword name

/-- Categories may not begin like those of the runtime library either. -/
def reservesCategory (p : Policy) (name : String) : Bool :=
  !p.options.allowReserved && (name.startsWith "glean" || p.isKeyword name)

/-- Pings may not be named like those of the runtime library either. -/
def reservesPing (p : Policy) (name : String) : Bool :=
  !p.options.allowReserved && (Ping.isBuiltin name || p.isKeyword name)

/-- Why the target cannot express a type. -/
def unsupported? (p : Policy) (v : Variant) : Option UnsupportedVariant :=
  p.target.bind fun t =>
    match t.className v with
    | .error cause => some cause
    | .ok _ => none

end Policy

end TelemetryBindings
