import TelemetryBindings.Grouping
import TelemetryBindings.Layout
import TelemetryBindings.Options
import TelemetryBindings.Target.Argument
import TelemetryBindings.Target.RuntimeClass
import TelemetryBindings.Text.Quoted

/-!
# Swift

One enum for each unit, inside an extension of the namespace. The extra keys of an event and the
reasons of a ping become a nested enum whose cases carry their position.
-/
namespace TelemetryBindings

structure Swift where
  /-- The namespace that is extended. -/
  extended : String
  /-- The module of the runtime types. -/
  runtime : String
  deriving DecidableEq, Repr

namespace Swift

def ofNamespaces (n : Namespaces) : Swift where
  extended := n.generatedOr "GleanMetrics"
  runtime := n.runtimeOr "Glean"

def indent : String := "    "

def reservedWords : List String :=
  ["Any", "Self", "as", "associatedtype", "break", "case", "catch", "class", "continue", "default",
    "defer", "deinit", "do", "else", "enum", "extension", "fallthrough", "false", "fileprivate",
    "for", "func", "guard", "if", "import", "in", "init", "inout", "internal", "is", "let", "nil",
    "open", "operator", "private", "protocol", "public", "repeat", "rethrows", "return", "self",
    "static", "struct", "subscript", "super", "switch", "throw", "throws", "true", "try",
    "typealias", "var", "where", "while"]

def className (w : Swift) (v : Variant) : QualifiedName := runtimeClass w.runtime "Ping" v

def string (s : String) : String := Text.quote Text.plainEscape s

def literal : Literal → String
  | .bool b => if b then "true" else "false"
  | .int i => toString i
  | .string s => string s
  | .lifetime l => "." ++ Vocabulary.word l
  | .timeUnit u => "." ++ Vocabulary.word u
  | .memoryUnit u => "." ++ Vocabulary.word u
  | .histogramType h => "." ++ Vocabulary.word h
  | .list items | .set items => "[" ++ Text.joinWith ", " (items.map string) ++ "]"

/-- A constructor call with one argument a line; `extra` arguments are already spelled. -/
def callWith (constructor : String) (arguments : List Argument) (extra : List (String × String)) :
    String :=
  constructor ++ "(\n" ++ argumentLines (spellArguments literal arguments ++ extra) ": " indent ++
    "\n)"

def enumName (i : Instrument) : String := Text.pascal i.name ++ i.enumSuffix

/-- The type of the positions in the enum of an instrument. -/
def rawType : Instrument → String
  | .metric _ => "Int32"
  | .ping _ => "Int"

/-- The protocol of the enum of an instrument. -/
def conformance : Instrument → String
  | .metric _ => "ExtraKeys"
  | .ping _ => "ReasonCodes"

def caseLine (position : Nat) (key : String) : String :=
  indent ++ "case " ++ Text.camel key ++ " = " ++ toString position

/-- An enum whose cases carry their position in the declaration. -/
def indexedEnum (name rawType conformance : String) (keys : List String) : String :=
  "enum " ++ name ++ ": " ++ rawType ++ ", " ++ conformance ++ " \x7b\n" ++
    Text.unlines (keys.mapIdx caseLine) ++
    "\n" ++ indent ++ "public func index() -> " ++ rawType ++ " \x7b\n" ++
    indent ++ indent ++ "return self.rawValue\n" ++ indent ++ "\x7d\n\x7d"

/-- The class that is constructed, with its type argument. -/
def constructor (w : Swift) (i : Instrument) : String :=
  i.appliedClass (w.className i.variant).simple (enumName i)

def extraArguments (m : Metric) : List (String × String) :=
  match m.type with
  | .event extraKeys => [("allowedExtraKeys", literal (.list extraKeys.keys))]
  | .labeled _ (some labels) => [("labels", literal (.set labels))]
  | .labeled _ none => [("labels", "nil")]
  | _ => []

/-- The constructor call of an instrument; the constructor of a labeled metric can fail. -/
def call (w : Swift) (i : Instrument) : String :=
  match i with
  | .metric m =>
    (match m.type with
      | .labeled .. => "try! "
      | _ => "") ++
    callWith (w.constructor i) m.arguments (extraArguments m)
  | .ping p => callWith (w.constructor i) p.arguments []

def entry (w : Swift) (i : Instrument) : Entry where
  description := i.description
  reference := i.reference
  preamble := i.enumKeys?.toList.map (indexedEnum (enumName i) (rawType i) (conformance i))
  declaration := "static let " ++ i.identifier ++ " = " ++ w.call i

def containerName (u : OutputUnit) : String := Text.pascal u.id

def fileName (u : OutputUnit) : String := containerName u ++ ".swift"

def lintRules : List String :=
  ["superfluous_disable_command", "nesting", "line_length", "identifier_name", "force_try"]

def layout (w : Swift) (u : OutputUnit) : Layout where
  header := "// AUTOGENERATED BY glean-codegen. DO NOT EDIT. DO NOT COMMIT.\n\n" ++
    "import " ++ w.runtime ++ "\n\n" ++
    Text.unlines (lintRules.map ("// swiftlint:disable " ++ ·)) ++
    "\nextension " ++ w.extended ++ " \x7b\n" ++ indent ++ "enum " ++ containerName u ++ " \x7b\n"
  footer := indent ++ "\x7d\n\x7d\n"
  indent := indent ++ indent
  separator := ""

end Swift

end TelemetryBindings
