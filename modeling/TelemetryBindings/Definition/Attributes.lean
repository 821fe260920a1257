import TelemetryBindings.Definition.Checked
import TelemetryBindings.Expiry
import TelemetryBindings.Identifier
import TelemetryBindings.OrderedMap
import TelemetryBindings.Policy

/-!
# Attributes of a definition

Typed access to the entries of a definition. A reader looks at the first entry of its attribute
and records every problem with it. A missing attribute is no problem here: `checkSchema` reports
it once, together with unknown and repeated attributes.
-/
namespace TelemetryBindings

/-- The entries of a definition in declaration order. -/
abbrev Definition := List (String × Node)

namespace Definition

def find? (d : Definition) (a : Attribute) : Option Node :=
  (List.find? (·.1 == a.key) d).map (·.2)

/-- The problems with the keys of a definition; `seen` holds the keys before. -/
def keyProblems (v : Variant) (seen : List String) : Definition → List Problem
  | [] => []
  | (key, _) :: rest =>
    if seen.contains key then .duplicateEntry .attributeKey key :: keyProblems v seen rest
    else if ((Vocabulary.ofWord? key).any v.permits) then keyProblems v (key :: seen) rest
    else .unknownAttribute key v :: keyProblems v (key :: seen) rest

def missingProblems (v : Variant) (d : Definition) : List Problem :=
  (v.required.filter fun a => (d.find? a).isNone).map .missingAttribute

/-- Unknown, repeated and missing attributes. -/
def checkSchema (v : Variant) (d : Definition) : Checked Unit :=
  ⟨(), keyProblems v [] d ++ missingProblems v d⟩

def wrongType (a : Attribute) (expected : Expected) (found : Node) : Problem :=
  .wrongType a.key expected found.kind

/-- Reads an attribute through a view of nodes. -/
def read {α : Type} (d : Definition) (a : Attribute) (expected : Expected)
    (view : Node → Option α) : Checked (Option α) :=
  match d.find? a with
  | none => pure none
  | some node =>
    match view node with
    | some value => pure (some value)
    | none => .reject (wrongType a expected node)

def string (d : Definition) (a : Attribute) : Checked (Option String) :=
  d.read a .string Node.asString?

def bool (d : Definition) (a : Attribute) : Checked (Option Bool) :=
  d.read a .boolean Node.asBool?

def boolOr (d : Definition) (a : Attribute) (default : Bool) : Checked Bool := do
  let value ← d.bool a
  return value.getD default

def integer (d : Definition) (a : Attribute) : Checked (Option Int) :=
  d.read a .integer Node.asInteger?

/-- A version is below 2^32, and 0 if it is not given. -/
def version (d : Definition) : Checked Nat := do
  match ← d.integer .version with
  | none => return 0
  | some value =>
    if 0 ≤ value ∧ value < 0x100000000 then return value.toNat
    else
      Checked.report (.invalidValue Attribute.version.key (toString value))
      return 0

/-- A string that is a word of a vocabulary. -/
def word (α : Type) [Vocabulary α] (d : Definition) (a : Attribute) : Checked (Option α) := do
  match ← d.string a with
  | none => return none
  | some text =>
    match Vocabulary.ofWord? text with
    | some value => return some value
    | none => Checked.reject (.invalidValue a.key text)

def wordOr {α : Type} [Vocabulary α] (d : Definition) (a : Attribute) (default : α) :
    Checked α := do
  let value ← d.word α a
  return value.getD default

/-- The text of an item of a list; integers count as text where they are allowed. -/
def itemText? (allowIntegers : Bool) : Node → Option String
  | .string s => some s
  | .integer i => if allowIntegers then some (toString i) else none
  | _ => none

/-- The texts of a list, and a problem for every item that is none. -/
def texts (a : Attribute) (allowIntegers : Bool) (node : Node) : Checked (List String) :=
  match node with
  | .list items =>
    ⟨items.filterMap (itemText? allowIntegers),
      (items.filter fun item => (itemText? allowIntegers item).isNone).map
        (wrongType a .stringList)⟩
  | _ => ⟨[], [wrongType a .list node]⟩

def stringList (d : Definition) (a : Attribute) : Checked (List String) :=
  match d.find? a with
  | none => pure []
  | some node => texts a false node

/-- As `texts`, where an empty list is a problem. -/
def nonEmptyTexts (d : Definition) (a : Attribute) (allowIntegers : Bool) :
    Checked (List String) :=
  match d.find? a with
  | none => pure []
  | some node => do
    let values ← texts a allowIntegers node
    match node with
    | .list [] =>
      Checked.report (wrongType a .nonEmptyList node)
      return values
    | _ => return values

def nonEmptyStringList (d : Definition) (a : Attribute) : Checked (List String) :=
  d.nonEmptyTexts a false

/-- Bugs are given as addresses or as bare numbers. -/
def bugs (d : Definition) : Checked (List String) := d.nonEmptyTexts .bugs true

/-- How an invalid expiry is quoted. -/
def expiryText : Node → String
  | .string s => s
  | .integer i => toString i
  | node => node.kind.text

def expires (d : Definition) : Checked (Option Expiry) :=
  match d.find? .expires with
  | none => pure none
  | some node =>
    match Expiry.parse? node with
    | some expiry => pure (some expiry)
    | none => .reject (.invalidExpires (expiryText node))

/-- Adds one entry of `send_in_pings` to those before it. -/
def addPing (defaultStore : String) (pings : List String) (entry : String) :
    Checked (List String) :=
  let ping := if entry = "default" then defaultStore else entry
  if entry ≠ "default" ∧ ¬Identifier.isPingName entry then
    ⟨pings, [.invalidIdentifier .pingName entry]⟩
  else if pings.contains ping then ⟨pings, [.duplicateEntry .sendInPingsEntry ping]⟩
  else ⟨pings ++ [ping], []⟩

/-- The pings that store a metric; `default` stands for the default store of its type. -/
def sendInPings (d : Definition) (defaultStore : String) : Checked (List String) :=
  match d.find? .sendInPings with
  | none => pure [defaultStore]
  | some node => do
    let entries ← texts .sendInPings false node
    entries.foldlM (addPing defaultStore) []

/-- Adds one label to those before it. -/
def addLabel (labels : List String) (label : String) : Checked (List String) :=
  if ¬Identifier.isLabel label then ⟨labels, [.invalidIdentifier .label label]⟩
  else if labels.contains label then ⟨labels, [.duplicateEntry .label label]⟩
  else ⟨labels ++ [label], []⟩

def labels (d : Definition) : Checked (Option (List String)) :=
  match d.find? .labels with
  | none => pure none
  | some node => do
    let entries ← texts .labels false node
    let labels ← entries.foldlM addLabel []
    return some labels

/-- Distinct keys have to stay distinct in camel case. `seen` holds the keys before, the latest
first, under their names in generated code. -/
def collisions (what : Subject) (seen : List (String × String)) : List String → List Problem
  | [] => []
  | key :: rest =>
    let identifier := Text.camel key
    let problems := collisions what ((identifier, key) :: seen) rest
    match seen.lookup identifier with
    | some first => .identifierCollision what first key identifier :: problems
    | none => problems

/-- Reads the keys of a mapping whose keys become identifiers. `description` reads the value of a
key, and `repeated` is the problem with a key that was read before. -/
def addKey (p : Policy) (what : Subject) (maxLength : Nat)
    (description : String → Node → Checked (Option String)) (repeated : String → Problem)
    (m : OrderedMap String) (entry : String × Node) : Checked (OrderedMap String) := do
  let (key, node) := entry
  if ¬Identifier.isIdentifier key maxLength then
    Checked.report (.invalidIdentifier what key)
    return m
  if p.reserves key then
    Checked.report (.reservedIdentifier what key)
  match ← description key node with
  | none => return m
  | some text =>
    match m.insert key text with
    | .ok m => return m
    | .error key =>
      Checked.report (repeated key)
      return m

def keyedTexts (d : Definition) (a : Attribute) (p : Policy) (what : Subject) (maxLength : Nat)
    (description : String → Node → Checked (Option String)) (repeated : String → Problem) :
    Checked (OrderedMap String) :=
  match d.find? a with
  | none => pure .empty
  | some (.mapping entries) => do
    let m ← entries.foldlM (addKey p what maxLength description repeated) .empty
    ⟨(), collisions what [] m.keys⟩
    return m
  | some node => ⟨.empty, [wrongType a .mapping node]⟩

/-- The problem with one attribute of an extra key, if there is one. -/
def extraKeyProblem? (key : String) : String × Node → Option Problem
  | (field, node) =>
    if field = "description" then
      match node with
      | .string _ => none
      | _ => some (.wrongType ("extra_keys." ++ key ++ ".description") .string node.kind)
    else some (.invalidDocument (.unknownExtraKeyAttribute key field))

/-- The description among the attributes of an extra key; the last one counts. -/
def lastDescription? (entries : List (String × Node)) : Option String :=
  (entries.filterMap fun (key, node) =>
    if key = "description" then node.asString? else none).getLast?

def extraKeyDescription (key : String) (node : Node) : Checked (Option String) :=
  match node with
  | .mapping entries =>
    let missing := if entries.any (·.1 == "description") then []
      else [.invalidDocument (.missingExtraKeyDescription key)]
    ⟨lastDescription? entries, entries.filterMap (extraKeyProblem? key) ++ missing⟩
  | _ => .reject (.wrongType ("extra_keys." ++ key) .mapping node.kind)

def extraKeys (d : Definition) (p : Policy) : Checked (OrderedMap String) :=
  d.keyedTexts .extraKeys p .extraKey Identifier.maxExtraKeyLength extraKeyDescription
    .duplicateExtraKey

def reasonDescription (code : String) (node : Node) : Checked (Option String) :=
  match node with
  | .string text => pure (some text)
  | _ => .reject (.wrongType ("reasons." ++ code) .string node.kind)

def reasons (d : Definition) (p : Policy) : Checked (OrderedMap String) :=
  d.keyedTexts .reasons p .reasonCode Identifier.maxNameLength reasonDescription
    (.duplicateEntry .reason)

end Definition

end TelemetryBindings
