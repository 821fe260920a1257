import TelemetryBindings.Document.Datum

/-!
# Document trees

A definition document is a tree of nodes. Mappings keep their entries in declaration order and
keep repeated keys, so that validation sees what the author wrote. `Node.ofDatum` builds the tree
of a datum: integers have to fit 64 signed bits, and the keys of mappings, which may be strings,
booleans or integers, are kept as text.
-/
namespace TelemetryBindings

inductive Node where
  | null
  | bool (value : Bool)
  | integer (value : Int)
  | float (value : Double)
  | string (value : String)
  | list (items : List Node)
  | mapping (entries : List (String × Node))
  deriving Repr

namespace Node

instance : Inhabited Node := ⟨.null⟩

/-- The shapes that diagnostics tell apart. -/
inductive Kind where
  | null
  | boolean
  | integer
  | number
  | string
  | list
  | mapping
  deriving DecidableEq, Repr

def Kind.text : Kind → String
  | .null => "null"
  | .boolean => "a boolean"
  | .integer => "an integer"
  | .number => "a number"
  | .string => "a string"
  | .list => "a list"
  | .mapping => "a mapping"

def kind : Node → Kind
  | .null => .null
  | .bool _ => .boolean
  | .integer _ => .integer
  | .float _ => .number
  | .string _ => .string
  | .list _ => .list
  | .mapping _ => .mapping

def asString? : Node → Option String
  | .string s => some s
  | _ => none

def asBool? : Node → Option Bool
  | .bool b => some b
  | _ => none

def asInteger? : Node → Option Int
  | .integer i => some i
  | _ => none

def asList? : Node → Option (List Node)
  | .list items => some items
  | _ => none

def asMapping? : Node → Option (List (String × Node))
  | .mapping entries => some entries
  | _ => none

/-- The value of the first entry with the given key, if the node is a mapping. -/
def get? (node : Node) (key : String) : Option Node := do
  let entries ← node.asMapping?
  (·.2) <$> entries.find? (·.1 == key)

/-- Why a datum is no document tree. -/
inductive Fault where
  | integerOutOfRange (value : Nat)
  | unusableKey
  deriving DecidableEq, Repr

def Fault.message : Fault → String
  | .integerOutOfRange value => s!"integer {value} is out of range"
  | .unusableKey => "a mapping key has to be a string, a boolean or an integer"

/-- The text under which a datum is kept as the key of a mapping. -/
def keyOfDatum : Datum → Except Fault String
  | .string s => .ok s
  | .bool b => .ok (if b then "true" else "false")
  | .signed i => .ok (toString i.toInt)
  | .unsigned n => .ok (toString n.toNat)
  | _ => .error .unusableKey

mutual

def ofDatum : Datum → Except Fault Node
  | .null => .ok .null
  | .absent => .ok .null
  | .present value => ofDatum value
  | .bool b => .ok (.bool b)
  | .signed i => .ok (.integer i.toInt)
  | .unsigned n =>
    if n.toNat < 0x8000000000000000 then .ok (.integer n.toNat)
    else .error (.integerOutOfRange n.toNat)
  | .float d => .ok (.float d)
  | .string s => .ok (.string s)
  | .sequence items => do
    let nodes ← ofItems items
    return .list nodes
  | .mapping entries => do
    let nodes ← ofEntries entries
    return .mapping nodes

def ofItems : List Datum → Except Fault (List Node)
  | [] => .ok []
  | item :: items => do
    let node ← ofDatum item
    let nodes ← ofItems items
    return node :: nodes

def ofEntries : List (Datum × Datum) → Except Fault (List (String × Node))
  | [] => .ok []
  | (key, value) :: entries => do
    let name ← keyOfDatum key
    let node ← ofDatum value
    let nodes ← ofEntries entries
    return (name, node) :: nodes

end

end Node

end TelemetryBindings
