import TelemetryBindings.Document.Yaml.Token

/-!
# Events

The nodes of a document in reading order: scalars, aliases, and the starts and ends of collections.
`Event.ofTokens?` reads the grammar of YAML and fills in the scalars that a text leaves out.
-/
namespace TelemetryBindings.Yaml

/-- What a node may carry: a name `α` under which aliases find it, and a tag in full. -/
structure Properties (α : Type) where
  anchor : Option α := none
  tag : Option Octets := none
  deriving DecidableEq, Repr

/-- `α` is the type of the names of anchors. -/
inductive Event (α : Type) where
  | alias (target : α)
  | scalar (properties : Properties α) (plain : Bool) (text : String)
  | sequenceStart (properties : Properties α)
  | sequenceEnd
  | mappingStart (properties : Properties α)
  | mappingEnd
  deriving DecidableEq, Repr

namespace Event

/-- A scalar that is left out. -/
def empty : Event String := .scalar {} true ""

/-- Events that were read, the last one first, and the tokens that follow. -/
abbrev Reading := List (Event String) × List Token

abbrev Reader := Reading → Option Reading

/-- Handles with what they stand for. -/
abbrev Handles := List (String × Octets)

/-- The tag in full; a handle has to be known. -/
def expand? (handles : Handles) (t : Tag) : Option Octets :=
  if t.handle = "" then some t.suffix else (handles.lookup t.handle).map (· ++ t.suffix)

/-- An anchor and a tag, in either order. -/
def properties? (handles : Handles) : List Token → Option (Properties String × List Token)
  | .anchor a :: .tag t :: ts | .tag t :: .anchor a :: ts =>
    (expand? handles t).map fun tag => (⟨some a, some tag⟩, ts)
  | .anchor a :: ts => some (⟨some a, none⟩, ts)
  | .tag t :: ts => (expand? handles t).map fun tag => (⟨none, some tag⟩, ts)
  | ts => some ({}, ts)

/-- The next token is one of those before which a scalar may be left out. -/
def isLeftOut (followers ts : List Token) : Bool :=
  match ts with
  | [] => false
  | t :: _ => followers.contains t

/-- Reads a node, or takes it as left out before certain tokens. -/
def orEmpty (followers : List Token) (node : Reader) : Reader
  | (es, ts) => if isLeftOut followers ts then some (empty :: es, ts) else node (es, ts)

/-! ### Collections

`fuel` bounds the number of items. -/

def blockSequence (item : Reader) : (fuel : Nat) → Reader
  | fuel + 1, (es, .blockEntry :: ts) => do
    blockSequence item fuel (← orEmpty [.blockEntry, .blockEnd] item (es, ts))
  | _, (es, .blockEnd :: ts) => some (.sequenceEnd :: es, ts)
  | _, _ => none

/-- A sequence that stands at the column of the mapping around it, and ends where that goes on. -/
def indentlessSequence (item : Reader) : (fuel : Nat) → Reader
  | fuel + 1, (es, .blockEntry :: ts) => do
    indentlessSequence item fuel
      (← orEmpty [.blockEntry, .key, .value, .blockEnd] item (es, ts))
  | _, (es, ts) => some (.sequenceEnd :: es, ts)

/-- The value of a key, if there is one. -/
def valueAfterKey (followers : List Token) (node : Reader) : Reader
  | (es, .value :: ts) => orEmpty followers node (es, ts)
  | (es, ts) => some (empty :: es, ts)

def blockMapping (node : Reader) : (fuel : Nat) → Reader
  | fuel + 1, (es, .key :: ts) => do
    let afterKey ← orEmpty [.key, .value, .blockEnd] node (es, ts)
    blockMapping node fuel (← valueAfterKey [.key, .value, .blockEnd] node afterKey)
  | _, (es, .blockEnd :: ts) => some (.mappingEnd :: es, ts)
  | _, _ => none

/-- A comma before every item but the first. -/
def separator? (first : Bool) : List Token → Option (List Token)
  | .flowEntry :: ts => if first then none else some ts
  | ts => if first then some ts else none

/-- A pair in a flow sequence is a mapping of its own. -/
def flowPair (node : Reader) : Reader
  | (es, ts) => do
    let followers := [.flowEntry, .flowSequenceEnd]
    let afterKey ← orEmpty (.value :: followers) node (.mappingStart {} :: es, ts)
    let (es, ts) ← valueAfterKey followers node afterKey
    return (.mappingEnd :: es, ts)

/-- Items of a flow sequence; a comma may follow the last. -/
def flowSequence (node : Reader) (first : Bool) : (fuel : Nat) → Reader
  | _, (es, .flowSequenceEnd :: ts) => some (.sequenceEnd :: es, ts)
  | 0, _ => none
  | fuel + 1, (es, ts) => do
    match ← separator? first ts with
    | .flowSequenceEnd :: ts => return (.sequenceEnd :: es, ts)
    | .key :: ts => flowSequence node false fuel (← flowPair node (es, ts))
    | ts => flowSequence node false fuel (← node (es, ts))

/-- A key of a flow mapping, with a value only if the key is marked as one. -/
def flowEntry (node : Reader) : Reader
  | (es, .key :: ts) => do
    let followers := [.flowEntry, .flowMappingEnd]
    let afterKey ← orEmpty (.value :: followers) node (es, ts)
    valueAfterKey followers node afterKey
  | (es, ts) => do
    let (es, ts) ← node (es, ts)
    return (empty :: es, ts)

def flowMapping (node : Reader) (first : Bool) : (fuel : Nat) → Reader
  | _, (es, .flowMappingEnd :: ts) => some (.mappingEnd :: es, ts)
  | 0, _ => none
  | fuel + 1, (es, ts) => do
    match ← separator? first ts with
    | .flowMappingEnd :: ts => return (.mappingEnd :: es, ts)
    | ts => flowMapping node false fuel (← flowEntry node (es, ts))

/-! ### Nodes -/

/-- Where a node stands: in a flow collection, in a block, or as the key or value of a block
mapping. -/
inductive Place where
  | flow
  | block
  | blockEntry
  deriving DecidableEq, Repr

/-- A node in which collections are nested at most `depth` deep. -/
def node (handles : Handles) : (depth : Nat) → Place → Reader
  | _, _, (es, .alias name :: ts) => some (.alias name :: es, ts)
  | depth, place, (es, ts) => do
    let (p, ts) ← properties? handles ts
    match depth, place, ts with
    | _, _, .scalar plain text :: ts => some (.scalar p plain text :: es, ts)
    | depth + 1, .blockEntry, .blockEntry :: _ =>
      indentlessSequence (node handles depth .block) ts.length (.sequenceStart p :: es, ts)
    | depth + 1, _, .flowSequenceStart :: ts =>
      flowSequence (node handles depth .flow) true ts.length (.sequenceStart p :: es, ts)
    | depth + 1, _, .flowMappingStart :: ts =>
      flowMapping (node handles depth .flow) true ts.length (.mappingStart p :: es, ts)
    | depth + 1, .block, .blockSequenceStart :: ts
    | depth + 1, .blockEntry, .blockSequenceStart :: ts =>
      blockSequence (node handles depth .block) ts.length (.sequenceStart p :: es, ts)
    | depth + 1, .block, .blockMappingStart :: ts
    | depth + 1, .blockEntry, .blockMappingStart :: ts =>
      blockMapping (node handles depth .blockEntry) ts.length (.mappingStart p :: es, ts)
    | _, _, ts => if p = {} then none else some (.scalar p true "" :: es, ts)

/-- The version of the language has to be 1.1 or 1.2. -/
def isKnownVersion (major minor : Nat) : Bool := major == 1 && (minor == 1 || minor == 2)

/-- The handles that directives define, and the tokens after the directives. Neither a version nor a
handle may be given twice. -/
def directives? (versioned : Bool) (handles : Handles) :
    List Token → Option (Handles × List Token)
  | .directive (.version major minor) :: ts =>
    if versioned ∨ !isKnownVersion major minor then none else directives? true handles ts
  | .directive (.tag handle expansion) :: ts =>
    if (handles.lookup handle).isSome then none
    else directives? versioned ((handle, expansion) :: handles) ts
  | ts => some (handles, ts)

/-- Handles that are known without a directive. -/
def standardHandles : Handles :=
  [("!", octetsOf "!".toList), ("!!", octetsOf "tag:yaml.org,2002:".toList)]

/-- Collections are nested at most this deep. -/
def maxDepth : Nat := 128

/-- A document after its start, which may be empty. -/
def content (handles : Handles) : Reader
  | (es, []) => some (empty :: es, [])
  | (es, ts) =>
    match ts.head? with
    | some (.directive _) | some .documentStart | some .documentEnd => some (empty :: es, ts)
    | _ => node handles maxDepth .block (es, ts)

/-- The only document of a text. -/
def document? (ts : List Token) : Option Reading := do
  let explicit := match ts.head? with
    | some (.directive _) | some .documentStart => true
    | _ => false
  let (handles, ts) ← directives? false [] ts
  if explicit then
    match ts with
    | .documentStart :: ts => content (handles ++ standardHandles) ([], ts)
    | _ => none
  else if ts.isEmpty then return ([], [])
  else node standardHandles maxDepth .block ([], ts)

/-- The events of a text with at most one document. Without a document there are no events. -/
def ofTokens? (ts : List Token) : Option (List (Event String)) := do
  let (es, rest) ← document? ts
  if rest.all (· == .documentEnd) then some es.reverse else none

end Event

end TelemetryBindings.Yaml
