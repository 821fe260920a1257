import TelemetryBindings.Grouping
import TelemetryBindings.Layout
import TelemetryBindings.Options
import TelemetryBindings.Target.Argument
import TelemetryBindings.Target.RuntimeClass
import TelemetryBindings.Text.Quoted
import TelemetryBindings.Text.Sorted

/-!
# Kotlin

One object for each unit, whose metrics are constructed when first used. The extra keys of an event
and the reasons of a ping become an enum class that stands before the property.
-/
namespace TelemetryBindings

structure Kotlin where
  /-- The package of the generated code. -/
  package : String
  /-- The package of the runtime types. -/
  runtime : String
  deriving DecidableEq, Repr

namespace Kotlin

def ofNamespaces (n : Namespaces) : Kotlin where
  package := n.generatedOr "GleanMetrics"
  runtime := n.runtimeOr "mozilla.components.service.glean" ++ ".private"

def indent : String := "    "

def reservedWords : List String :=
  ["as", "break", "class", "continue", "do", "else", "false", "for", "fun", "if", "in",
    "interface", "is", "null", "object", "package", "return", "super", "this", "throw", "true",
    "try", "typealias", "typeof", "val", "var", "when", "while"]

def runtimeType (k : Kotlin) (name : String) : QualifiedName := .plain k.runtime name

def className (k : Kotlin) (v : Variant) : QualifiedName := runtimeClass k.runtime "PingType" v

def string (s : String) : String := Text.quote Text.templateEscape s

def strings (items : List String) : String := Text.joinWith ", " (items.map string)

def literal : Literal → String
  | .bool b => if b then "true" else "false"
  | .int i => toString i ++ "L"
  | .string s => string s
  | .lifetime l => "Lifetime." ++ Text.pascal (Vocabulary.word l)
  | .timeUnit u => "TimeUnit." ++ Text.pascal (Vocabulary.word u)
  | .memoryUnit u => "MemoryUnit." ++ Text.pascal (Vocabulary.word u)
  | .histogramType h => "HistogramType." ++ Text.pascal (Vocabulary.word h)
  | .list items => "listOf(" ++ strings items ++ ")"
  | .set items => "setOf(" ++ strings items ++ ")"

/-- A constructor call with one argument a line; `extra` arguments are already spelled. -/
def callWith (constructor : String) (arguments : List Argument) (extra : List (String × String)) :
    String :=
  constructor ++ "(\n" ++ argumentLines (spellArguments literal arguments ++ extra) " = " indent ++
    "\n)"

/-- The call that constructs the metric inside a labeled one. -/
def subMetricCall (k : Kotlin) (m : Metric) (inner : LabeledInner) : String :=
  callWith (k.className inner.variant).name (m.argumentsNamed (m.name ++ "_label")) []

/-- Extra keys, labels and the inner metric of a labeled one. -/
def extraArguments (k : Kotlin) (m : Metric) : List (String × String) :=
  match m.type with
  | .event extraKeys => [("allowedExtraKeys", literal (.list extraKeys.keys))]
  | .labeled inner labels =>
    (match labels with
      | some labels => [("labels", literal (.set labels))]
      | none => []) ++
    [("subMetric", Text.indentContinuation indent (k.subMetricCall m inner))]
  | _ => []

def metricCall (k : Kotlin) (m : Metric) : String :=
  callWith (k.className m.variant).name m.arguments (k.extraArguments m)

def pingCall (k : Kotlin) (p : Ping) : String :=
  callWith (k.className .ping).name p.arguments []

def call (k : Kotlin) : Instrument → String
  | .metric m => k.metricCall m
  | .ping p => k.pingCall p

def enumName (i : Instrument) : String := Text.camel i.name ++ i.enumSuffix

def enumClass (name : String) (constants : List String) : String :=
  "enum class " ++ name ++ " \x7b\n" ++ Text.joinWith ",\n" (constants.map (indent ++ ·)) ++
    "\n\x7d"

def propertyType (k : Kotlin) (i : Instrument) : String :=
  i.appliedClass (k.className i.variant).simple (enumName i)

def declaration (k : Kotlin) (i : Instrument) : String :=
  "val " ++ i.identifier ++ ": " ++ k.propertyType i ++
    match i with
    | .metric _ => " by lazy \x7b\n" ++ Text.indentAll indent (k.call i) ++ "\n\x7d"
    | .ping _ => " = " ++ k.call i

def entry (k : Kotlin) (i : Instrument) : Entry where
  description := i.description
  reference := i.reference
  preamble := i.enumKeys?.toList.map (enumClass (enumName i))
  declaration := k.declaration i

/-- The runtime type that the arguments of a metric mention beside its class and its lifetime. -/
def argumentType? (k : Kotlin) : MetricType → Option QualifiedName
  | .labeled inner _ => some (k.className inner.variant)
  | .event extraKeys => if extraKeys.isEmpty then some (k.runtimeType "NoExtraKeys") else none
  | .datetime _ | .timespan _ | .timingDistribution _ => some (k.runtimeType "TimeUnit")
  | .memoryDistribution _ => some (k.runtimeType "MemoryUnit")
  | .customDistribution .. => some (k.runtimeType "HistogramType")
  | _ => none

/-- The paths of the runtime types that an instrument mentions. -/
def mentioned (k : Kotlin) (i : Instrument) : List String :=
  (k.className i.variant).imports ++
    match i with
    | .metric m =>
      (k.runtimeType "Lifetime").imports ++ ((k.argumentType? m.type).map (·.imports)).getD []
    | .ping p => if p.reasons.isEmpty then (k.runtimeType "NoReasonCodes").imports else []

def imports (k : Kotlin) (u : OutputUnit) : List String :=
  Text.sortedSet (u.instruments.flatMap k.mentioned)

def containerName (u : OutputUnit) : String := Text.pascal u.id

def fileName (u : OutputUnit) : String := containerName u ++ ".kt"

def layout (k : Kotlin) (u : OutputUnit) : Layout where
  header := "/*\n * AUTOGENERATED BY glean-codegen. DO NOT EDIT. DO NOT COMMIT.\n */\n\n" ++
    "@file:Suppress(\"PackageNaming\", \"MaxLineLength\")\n" ++
    "package " ++ k.package ++ "\n\n" ++
    Text.unlines ((k.imports u).map ("import " ++ ·)) ++
    "\ninternal object " ++ containerName u ++ " \x7b\n"
  footer := "\x7d\n"
  indent := indent
  separator := ""

end Kotlin

end TelemetryBindings
