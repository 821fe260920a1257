import TelemetryBindings.Document.Json
import TelemetryBindings.Document.Node
import TelemetryBindings.Document.Toml
import TelemetryBindings.Document.Yaml.Basic
import TelemetryBindings.Options

/-!
# Reading texts

Document trees from YAML and JSON, and settings from TOML.
-/
namespace TelemetryBindings

/-- Why a text could not be read. -/
inductive TextFault where
  /-- The text breaks the rules of its format. -/
  | malformed
  /-- The data do not make a document tree. -/
  | unfit (cause : Node.Fault)
  /-- The data are no settings. -/
  | notSettings
  deriving DecidableEq, Repr

def TextFault.message : TextFault → String
  | .malformed => "the text is malformed"
  | .unfit cause => cause.message
  | .notSettings => "an unknown setting, or a value of the wrong type"

/-- The document tree of a text whose data were read. -/
def Node.ofText (read : String → Option Datum) (text : String) : Except TextFault Node :=
  match read text with
  | none => .error .malformed
  | some d => (Node.ofDatum d).mapError .unfit

def Node.ofYaml (text : String) : Except TextFault Node := Node.ofText Yaml.read? text

def Node.ofJson (text : String) : Except TextFault Node := Node.ofText Json.read? text

/-- The settings of a text. -/
def settingsOfToml {α : Type} (ofDatum? : Datum → Option α) (text : String) :
    Except TextFault α :=
  match Toml.read? text with
  | none => .error .malformed
  | some d =>
    match ofDatum? d with
    | some settings => .ok settings
    | none => .error .notSettings

def Options.ofToml (text : String) : Except TextFault Options := settingsOfToml ofDatum? text

def Namespaces.ofToml (text : String) : Except TextFault Namespaces :=
  settingsOfToml ofDatum? text

end TelemetryBindings
