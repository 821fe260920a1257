import TelemetryBindings.Document.Node
import TelemetryBindings.Schema.Descriptor

/-!
# Problems in definitions

Everything that can be wrong with a document or a definition, apart from where it was found. The
wording of every problem is in `Problem.message`.
-/
namespace TelemetryBindings

/-- A type that the selected target cannot express. -/
structure UnsupportedVariant where
  variant : Variant
  target : String
  deriving DecidableEq, Repr

def UnsupportedVariant.message (e : UnsupportedVariant) : String :=
  s!"instrument type '{e.variant.tag}' is not supported by the {e.target} target"

/-- Where in a set of documents a problem was found. -/
inductive Location where
  | document (origin : String)
  | metric (category name : String)
  | ping (name : String)
  deriving DecidableEq, Repr

def Location.text : Location → String
  | .document origin => origin
  | .metric category name => s!"metric '{category}.{name}'"
  | .ping name => s!"ping '{name}'"

/-- What an attribute should have been. -/
inductive Expected where
  | string
  | boolean
  | integer
  | mapping
  | list
  | stringList
  | nonEmptyList
  deriving DecidableEq, Repr

def Expected.text : Expected → String
  | .string => "a string"
  | .boolean => "a boolean"
  | .integer => "an integer"
  | .mapping => "a mapping"
  | .list => "a list"
  | .stringList => "a list of strings"
  | .nonEmptyList => "a non-empty list"

/-- What is named, where a name is invalid, reserved or repeated. -/
inductive Subject where
  | category
  | metricName
  | pingName
  | extraKey
  | reasonCode
  | label
  | attributeKey
  | sendInPingsEntry
  | reason
  deriving DecidableEq, Repr

def Subject.text : Subject → String
  | .category => "category"
  | .metricName => "metric name"
  | .pingName => "ping name"
  | .extraKey => "extra key"
  | .reasonCode => "reason code"
  | .label => "label"
  | .attributeKey => "attribute"
  | .sendInPingsEntry => "send_in_pings entry"
  | .reason => "reason"

/-- A flaw in the make-up of a document. -/
inductive DocumentFlaw where
  | rootNotMapping (found : Node.Kind)
  | unknownSchema (schema : String)
  | missingSchema
  | unknownExtraKeyAttribute (extraKey key : String)
  | missingExtraKeyDescription (extraKey : String)
  deriving DecidableEq, Repr

def DocumentFlaw.message : DocumentFlaw → String
  | .rootNotMapping found => s!"the document root must be a mapping, found {found.text}"
  | .unknownSchema schema => s!"unknown $schema '{schema}'"
  | .missingSchema => "missing $schema"
  | .unknownExtraKeyAttribute extraKey key =>
    s!"extra key '{extraKey}' has unknown attribute '{key}'"
  | .missingExtraKeyDescription extraKey => s!"extra key '{extraKey}' is missing a description"

inductive Problem where
  | invalidDocument (flaw : DocumentFlaw)
  | missingAttribute (missing : Attribute)
  | unknownAttribute (key : String) (variant : Variant)
  | unknownType (cause : UnknownType)
  | wrongType (key : String) (expected : Expected) (found : Node.Kind)
  | invalidValue (key value : String)
  | invalidExpires (value : String)
  | duplicateExtraKey (key : String)
  | duplicateEntry (what : Subject) (key : String)
  | invalidIdentifier (what : Subject) (value : String)
  | identifierCollision (what : Subject) (first second identifier : String)
  | reservedIdentifier (what : Subject) (value : String)
  | unsupportedVariant (cause : UnsupportedVariant)
  | duplicateDefinition
  deriving DecidableEq, Repr

namespace Problem

/-- The options or the choice of target can lift the problem; all others are malformed input. -/
def isPolicy : Problem → Bool
  | .reservedIdentifier .. | .unsupportedVariant _ => true
  | _ => false

/-- The text of a problem, after the text of its location. -/
def message : Problem → String
  | .invalidDocument flaw => ": " ++ flaw.message
  | .missingAttribute missing => s!": missing required attribute '{missing.key}'"
  | .unknownAttribute key variant =>
    s!": attribute '{key}' is not allowed for type '{variant.tag}'"
  | .unknownType cause => ": " ++ cause.message
  | .wrongType key expected found =>
    s!": '{key}' must be {expected.text}, found {found.text}"
  | .invalidValue key value => s!": invalid value '{value}' for '{key}'"
  | .invalidExpires value =>
    s!": invalid expires value '{value}', expected 'never', 'expired', a YYYY-MM-DD date, " ++
      "or a major version number"
  | .duplicateExtraKey key => s!": duplicate extra key '{key}'"
  | .duplicateEntry what key => s!": duplicate {what.text} '{key}'"
  | .invalidIdentifier what value => s!": '{value}' is not a valid {what.text}"
  | .identifierCollision what first second identifier =>
    s!": {what.text}s '{first}' and '{second}' both render as '{identifier}'"
  | .reservedIdentifier what value =>
    s!": {what.text} '{value}' is reserved; set allow_reserved to use it"
  | .unsupportedVariant cause => ": " ++ cause.message
  | .duplicateDefinition => " is defined more than once"

end Problem

/-- A problem at its location. -/
structure SchemaError where
  location : Location
  problem : Problem
  deriving DecidableEq, Repr

namespace SchemaError

def isPolicy (e : SchemaError) : Bool := e.problem.isPolicy

def message (e : SchemaError) : String := e.location.text ++ e.problem.message

/-- The text of all errors of a build: their number, then one indented line for each. -/
def report (errors : List SchemaError) : String :=
  s!"{errors.length} error(s) found in the definitions" ++
    String.join (errors.map fun e => "\n  " ++ e.message)

end SchemaError

end TelemetryBindings
