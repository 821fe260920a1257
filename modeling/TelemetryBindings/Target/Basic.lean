import TelemetryBindings.Target.JavaScript
import TelemetryBindings.Target.Kotlin
import TelemetryBindings.Target.Swift

/-!
# Targets

A code generator for one target language. `Target.renderUnit` writes a whole unit; it fails only
where the target lacks the type of an instrument.
-/
namespace TelemetryBindings

inductive Target where
  | javascript
  | kotlin (target : Kotlin)
  | swift (target : Swift)
  deriving DecidableEq, Repr

/-- Why a tag has no class in a target. -/
inductive ClassNameError where
  | unknown (cause : UnknownType)
  | unsupported (cause : UnsupportedVariant)
  deriving DecidableEq, Repr

def ClassNameError.message : ClassNameError → String
  | .unknown cause => cause.message
  | .unsupported cause => cause.message

namespace Target

def name : Target → String
  | .javascript => "javascript"
  | .kotlin _ => "kotlin"
  | .swift _ => "swift"

/-- Words that generated identifiers must not be. -/
def reservedWords : Target → List String
  | .javascript => JavaScript.reservedWords
  | .kotlin _ => Kotlin.reservedWords
  | .swift _ => Swift.reservedWords

/-- The class of an instrument type in the runtime library. -/
def className : Target → Variant → Except UnsupportedVariant QualifiedName
  | .javascript, v => JavaScript.className v
  | .kotlin k, v => .ok (k.className v)
  | .swift w, v => .ok (w.className v)

def classNameOfTag (t : Target) (tag : String) : Except ClassNameError QualifiedName :=
  match Variant.resolve tag with
  | .error cause => .error (.unknown cause)
  | .ok v => (t.className v).mapError .unsupported

def literal : Target → Literal → String
  | .javascript => JavaScript.literal
  | .kotlin _ => Kotlin.literal
  | .swift _ => Swift.literal

/-- The constructor call of an instrument. -/
def call : Target → Instrument → Except UnsupportedVariant String
  | .javascript, i => JavaScript.call i
  | .kotlin k, i => .ok (k.call i)
  | .swift w, i => .ok (w.call i)

/-- The declaration of an instrument inside its unit. -/
def entry : Target → Instrument → Except UnsupportedVariant Entry
  | .javascript, i => JavaScript.entry i
  | .kotlin k, i => .ok (k.entry i)
  | .swift w, i => .ok (w.entry i)

def fileName : Target → OutputUnit → String
  | .javascript => JavaScript.fileName
  | .kotlin _ => Kotlin.fileName
  | .swift _ => Swift.fileName

def layout : Target → OutputUnit → Layout
  | .javascript, u => JavaScript.layout u
  | .kotlin k, u => k.layout u
  | .swift w, u => w.layout u

def renderUnit (t : Target) (u : OutputUnit) : Except UnsupportedVariant Document := do
  let entries ← u.instruments.mapM t.entry
  return { fileName := t.fileName u, contents := (t.layout u).render entries }

end Target

end TelemetryBindings
