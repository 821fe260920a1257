import TelemetryBindings.Document.Yaml.Event
import TelemetryBindings.Document.Yaml.Resolution

/-!
# Reading YAML

`Yaml.read?` reads a text with at most one document. An alias stands for the node with its anchor.
Anchors are numbered, each by the number of distinct names before it, and an alias belongs to the
last anchor with the number that its name had; only a name that is defined twice makes that visible.
Nesting is limited, aliases included, and so is the number of aliases that are followed.
-/
namespace TelemetryBindings.Yaml

/-- Numbers the anchors of events. `names` holds the numbers of the names so far. -/
def numbered? (names : List (String × Nat)) : List (Event String) → Option (List (Event Nat))
  | [] => some []
  | .alias name :: es => do
    let id ← names.lookup name
    (.alias id :: ·) <$> numbered? names es
  | .scalar p plain text :: es =>
    let (names, p) := define names p
    (.scalar p plain text :: ·) <$> numbered? names es
  | .sequenceStart p :: es =>
    let (names, p) := define names p
    (.sequenceStart p :: ·) <$> numbered? names es
  | .mappingStart p :: es =>
    let (names, p) := define names p
    (.mappingStart p :: ·) <$> numbered? names es
  | .sequenceEnd :: es => (.sequenceEnd :: ·) <$> numbered? names es
  | .mappingEnd :: es => (.mappingEnd :: ·) <$> numbered? names es
where
  define (names : List (String × Nat)) (p : Properties String) :
      List (String × Nat) × Properties Nat :=
    match p.anchor with
    | none => (names, { tag := p.tag })
    | some name =>
      let id := names.length
      ((name, id) :: names.filter (·.1 != name), { anchor := some id, tag := p.tag })

def Event.properties : Event Nat → Properties Nat
  | .scalar p _ _ | .sequenceStart p | .mappingStart p => p
  | _ => {}

/-- The events from every anchor on, the last one first. -/
def anchored (found : List (Nat × List (Event Nat))) :
    List (Event Nat) → List (Nat × List (Event Nat))
  | [] => found
  | e :: es =>
    match e.properties.anchor with
    | some id => anchored ((id, e :: es) :: found) es
    | none => anchored found es

/-- What was read, how many more aliases may be followed, and the events that follow. -/
abbrev Reading (α : Type) := α × Nat × List (Event Nat)

/-- Takes how many aliases may be followed. -/
abbrev Reader (α : Type) := Nat → List (Event Nat) → Option (Reading α)

/-- Reads a node, or the node that an alias stands for. -/
def followAlias (anchors : List (Nat × List (Event Nat))) (node : Reader Datum) : Reader Datum
  | aliases, .alias id :: es =>
    match aliases with
    | 0 => none
    | aliases + 1 => do
      let target ← anchors.lookup id
      let (d, aliases, _) ← node aliases target
      return (d, aliases, es)
  | aliases, es => node aliases es

/-- Reads items up to the end of their collection; `fuel` bounds their number. -/
def itemsUntil {α : Type} (closing : Event Nat) (item : Reader α) :
    (fuel : Nat) → (read : List α) → Reader (List α)
  | 0, _, _, _ => none
  | fuel + 1, read, aliases, es =>
    if es.head? = some closing then some (read.reverse, aliases, es.drop 1)
    else do
      let (a, aliases, es) ← item aliases es
      itemsUntil closing item fuel (a :: read) aliases es

/-- A key with its value. -/
def pairOf (node : Reader Datum) : Reader (Datum × Datum)
  | aliases, es => do
    let (key, aliases, es) ← node aliases es
    let (value, aliases, es) ← node aliases es
    return ((key, value), aliases, es)

/-- Reads a node that is no alias, in which collections are nested at most `depth` deep. Tags of an
application's own are refused for collections too, for which other tags do not matter. -/
def node? (anchors : List (Nat × List (Event Nat))) : (depth : Nat) → Reader Datum
  | depth, aliases, events =>
    match depth, events with
    | _, .scalar p plain text :: es => (scalar? p.tag plain text).map (·, aliases, es)
    | depth + 1, .sequenceStart p :: es =>
      let item := followAlias anchors (node? anchors depth)
      if p.tag.any isOwnTag then none
      else (itemsUntil .sequenceEnd item es.length [] aliases es).map fun (items, rest) =>
        (.sequence items, rest)
    | depth + 1, .mappingStart p :: es =>
      let item := pairOf (followAlias anchors (node? anchors depth))
      if p.tag.any isOwnTag then none
      else (itemsUntil .mappingEnd item es.length [] aliases es).map fun (entries, rest) =>
        (.mapping entries, rest)
    | _, _ => none

/-- The datum of a document; aliases are followed at most 100 times for every event. -/
def datum? (es : List (Event String)) : Option Datum := do
  let es ← numbered? [] es
  if es.isEmpty then return .absent
  let (d, _) ← node? (anchored [] es) Event.maxDepth (100 * es.length) es
  return d

/-- Reads a text with at most one document. -/
def read? (text : String) : Option Datum := do
  let ts ← tokens? text
  let es ← Event.ofTokens? ts
  datum? es

end TelemetryBindings.Yaml
