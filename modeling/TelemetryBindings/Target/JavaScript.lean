import TelemetryBindings.Grouping
import TelemetryBindings.Layout
import TelemetryBindings.Problem
import TelemetryBindings.Target.Argument
import TelemetryBindings.Target.QualifiedName
import TelemetryBindings.Text.Quoted

/-!
# JavaScript

One module for each unit, which exports an object of instruments. Labeled metrics, distributions
and `jwe` metrics cannot be expressed, and there are no namespaces to configure.
-/
namespace TelemetryBindings.JavaScript

def runtimeSpace : String := "Glean._private"

def indent : String := "  "

def reservedWords : List String :=
  ["await", "break", "case", "catch", "class", "const", "continue", "debugger", "default",
    "delete", "do", "else", "enum", "export", "extends", "false", "finally", "for", "function",
    "if", "implements", "import", "in", "instanceof", "interface", "let", "new", "null",
    "package", "private", "protected", "public", "return", "static", "super", "switch", "this",
    "throw", "true", "try", "typeof", "var", "void", "while", "with", "yield"]

def classWord? : Variant → Option String
  | .boolean => some "BooleanMetricType"
  | .counter => some "CounterMetricType"
  | .datetime => some "DatetimeMetricType"
  | .event => some "EventMetricType"
  | .quantity => some "QuantityMetricType"
  | .string => some "StringMetricType"
  | .stringList => some "StringListMetricType"
  | .timespan => some "TimespanMetricType"
  | .uuid => some "UUIDMetricType"
  | .ping => some "PingType"
  | _ => none

def className (v : Variant) : Except UnsupportedVariant QualifiedName :=
  match classWord? v with
  | some word => .ok (.plain runtimeSpace word)
  | none => .error ⟨v, "javascript"⟩

def string (s : String) : String := Text.quote Text.jsonEscape s

def literal : Literal → String
  | .bool b => if b then "true" else "false"
  | .int i => toString i
  | .string s => string s
  | .lifetime l => string (Vocabulary.word l)
  | .timeUnit u => string (Vocabulary.word u)
  | .memoryUnit u => string (Vocabulary.word u)
  | .histogramType h => string (Vocabulary.word h)
  | .list items | .set items => "[" ++ Text.joinWith ", " (items.map string) ++ "]"

/-- An object literal with one argument a line. -/
def object (arguments : List Argument) : String :=
  "\x7b\n" ++ argumentLines (spellArguments literal arguments) ": " indent ++ ",\n\x7d"

/-- The constructor call of an instrument; the extra keys of an event follow as a second
argument. -/
def call (i : Instrument) : Except UnsupportedVariant String := do
  let cls ← className i.variant
  let extraKeys := match i with
    | .metric m =>
      match m.extraKeyNames? with
      | some keys => ", " ++ literal (.list keys)
      | none => ""
    | .ping _ => ""
  return "new " ++ cls.text ++ "(" ++ object i.arguments ++ extraKeys ++ ")"

def fileName (u : OutputUnit) : String := u.id ++ ".js"

def layout (u : OutputUnit) : Layout where
  header := "// AUTOGENERATED BY glean-codegen. DO NOT EDIT. DO NOT COMMIT.\n\nconst " ++ u.id ++
    " = \x7b\n"
  footer := "\x7d;\n\nexport default " ++ u.id ++ ";\n"
  indent := indent
  separator := ","

def entry (i : Instrument) : Except UnsupportedVariant Entry := do
  let constructed ← call i
  return {
    description := i.description
    reference := i.reference
    preamble := []
    declaration := i.identifier ++ ": " ++ constructed }

end TelemetryBindings.JavaScript
