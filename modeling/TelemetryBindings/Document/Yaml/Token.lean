import TelemetryBindings.Document.Yaml.Scalar
import TelemetryBindings.Document.Yaml.Tag

/-!
# Tokens

A YAML text as a list of tokens, in which indentation has become explicit starts and ends of block
collections. A key is recognised only by the colon after it. The start of every token that may turn
out to be a key is therefore kept as a candidate, and the tokens that announce the key are put in
front of it later. A candidate is given up after the end of its line or 1024 octets.
-/
namespace TelemetryBindings.Yaml

inductive Token where
  | directive (d : Directive)
  | documentStart
  | documentEnd
  | blockSequenceStart
  | blockMappingStart
  | blockEnd
  | flowSequenceStart
  | flowSequenceEnd
  | flowMappingStart
  | flowMappingEnd
  | blockEntry
  | flowEntry
  | key
  | value
  | alias (name : String)
  | anchor (name : String)
  | tag (t : Tag)
  | scalar (plain : Bool) (text : String)
  deriving DecidableEq, Repr

/-- The start of a token that is a key if a colon follows. -/
structure Candidate where
  /-- The number of tokens before it. -/
  position : Nat
  /-- Nothing but a key may stand here. -/
  required : Bool
  start : Glyph
  deriving Repr

structure Scan where
  /-- The tokens so far, the last one first. -/
  tokens : List Token := []
  /-- Their number. -/
  count : Nat := 0
  /-- The column of the innermost block collection, or -1 outside of all. -/
  indent : Int := -1
  /-- The columns of the block collections around it, and last -1. -/
  outer : List Int := []
  /-- The candidate for a key in every open flow collection, the innermost first, and last the one
  in block context. -/
  candidates : List (Option Candidate) := [none]
  /-- A key may begin here. -/
  keyAllowed : Bool := true

namespace Scan

def inFlow (st : Scan) : Bool := st.candidates.length != 1

def emit (st : Scan) (t : Token) : Scan :=
  { st with tokens := t :: st.tokens, count := st.count + 1 }

def allowKey (st : Scan) (allowed : Bool) : Scan := { st with keyAllowed := allowed }

/-- Puts a token behind the first `position` tokens. -/
def insertAt (st : Scan) (position : Nat) (t : Token) : Scan :=
  let behind := st.count - position
  { st with
    tokens := st.tokens.take behind ++ t :: st.tokens.drop behind
    count := st.count + 1 }

/-- Gives up the candidate of the innermost collection, which must not be required. -/
def dropCandidate? (st : Scan) : Option Scan :=
  match st.candidates with
  | some c :: rest => if c.required then none else some { st with candidates := none :: rest }
  | _ => some st

/-- Makes the token that begins at a glyph a candidate, where a key is allowed. -/
def saveCandidate? (st : Scan) (g : Glyph) : Option Scan :=
  if st.keyAllowed then do
    let st ← st.dropCandidate?
    let candidate : Candidate :=
      ⟨st.count, !st.inFlow && st.indent == (g.column : Int), g⟩
    return { st with candidates := some candidate :: st.candidates.drop 1 }
  else some st

/-- The candidate can no longer be a key at the given place. -/
def Candidate.isStale (c : Candidate) (g : Glyph) : Bool :=
  c.start.line < g.line || c.start.index + 1024 < g.index

/-- Gives up all candidates that are stale at the given place, none of which may be required. -/
def dropStale? (st : Scan) (g : Glyph) : Option Scan :=
  let stale := fun (c : Candidate) => Candidate.isStale c g
  if st.candidates.any fun c => c.any fun c => c.required && stale c then none
  else some { st with candidates := st.candidates.map fun c => c.filter fun c => !stale c }

/-- Opens a block collection at a column, if one farther left is the innermost; `insert` adds the
token that announces it. -/
def openBlock (st : Scan) (column : Nat) (insert : Scan → Scan) : Scan :=
  if !st.inFlow ∧ st.indent < column then
    insert { st with indent := column, outer := st.indent :: st.outer }
  else st

/-- How many block collections begin to the right of a column, the column of the innermost one that
does not, and those around it. -/
def closed (column indent : Int) : List Int → Nat × Int × List Int
  | [] => (0, indent, [])
  | next :: outer =>
    if column < indent then
      let (ended, indent, outer) := closed column next outer
      (ended + 1, indent, outer)
    else (0, indent, next :: outer)

/-- Ends the block collections that begin to the right of a column. -/
def closeBlocks (st : Scan) (column : Int) : Scan :=
  if st.inFlow then st
  else
    let (ended, indent, outer) := closed column st.indent st.outer
    { st with
      tokens := List.replicate ended .blockEnd ++ st.tokens
      count := st.count + ended
      indent, outer }

/-- Blanks, comments and line ends before the next token, and whether a key may begin there. A tab
may not stand where a key may begin. A line may open with a byte order mark, which counts as a
column. -/
def skipGap (flow : Bool) (comment allowed : Bool) : List Glyph → Bool × List Glyph
  | [] => (allowed, [])
  | g :: rest =>
    if g.isBreak then skipGap flow false (allowed || !flow) rest
    else if comment then skipGap flow true allowed rest
    else if g.char = ' ' ∨ (g.char = '\t' ∧ (flow ∨ !allowed)) then
      skipGap flow false allowed rest
    else if g.column = 0 ∧ g.char = byteOrderMark then skipGap flow false allowed rest
    else if g.char = '#' then skipGap flow true allowed rest
    else (allowed, g :: rest)

/-! ### One token

Every function takes the glyph at which the token begins and what follows it. -/

abbrev Step := Option (Scan × List Glyph)

def directive (st : Scan) (rest : List Glyph) : Step := do
  let st ← (st.closeBlocks (-1)).dropCandidate?
  let (d, rest) ← directive? rest
  return ((st.allowKey false).emit (.directive d), rest)

def border (st : Scan) (t : Token) (rest : List Glyph) : Step := do
  let st ← (st.closeBlocks (-1)).dropCandidate?
  return ((st.allowKey false).emit t, rest.drop 2)

def openFlow (st : Scan) (t : Token) (g : Glyph) (rest : List Glyph) : Step := do
  let st ← st.saveCandidate? g
  return (({ st with candidates := none :: st.candidates }.allowKey true).emit t, rest)

/-- A closing bracket without an opening one is refused. -/
def closeFlow (st : Scan) (t : Token) (rest : List Glyph) : Step := do
  let st ← st.dropCandidate?
  if st.inFlow then
    return (({ st with candidates := st.candidates.drop 1 }.allowKey false).emit t, rest)
  else none

def flowEntry (st : Scan) (rest : List Glyph) : Step := do
  let st ← st.dropCandidate?
  return ((st.allowKey true).emit .flowEntry, rest)

/-- Entries and explicit keys need a place where a key may begin, except in flow collections. -/
def blockIndicator (st : Scan) (collection t : Token) (allowNext : Bool) (g : Glyph)
    (rest : List Glyph) : Step :=
  if !st.inFlow ∧ !st.keyAllowed then none
  else do
    let st ← (st.openBlock g.column (·.emit collection)).dropCandidate?
    return ((st.allowKey allowNext).emit t, rest)

def blockEntry (st : Scan) (g : Glyph) (rest : List Glyph) : Step :=
  st.blockIndicator .blockSequenceStart .blockEntry true g rest

def explicitKey (st : Scan) (g : Glyph) (rest : List Glyph) : Step :=
  st.blockIndicator .blockMappingStart .key (!st.inFlow) g rest

/-- A colon makes the candidate before it a key. -/
def value (st : Scan) (g : Glyph) (rest : List Glyph) : Step :=
  match st.candidates with
  | some c :: candidates =>
    let st := st.insertAt c.position .key
    let st := st.openBlock c.start.column (·.insertAt c.position .blockMappingStart)
    some (({ st with candidates := none :: candidates }.allowKey false).emit .value, rest)
  | _ =>
    if !st.inFlow ∧ !st.keyAllowed then none
    else
      let opened := st.openBlock g.column (·.emit .blockMappingStart)
      some ((opened.allowKey (!st.inFlow)).emit .value, rest)

/-- A token that may begin a key, and after which none may. -/
def simple (st : Scan) (g : Glyph) (read : Option (Token × List Glyph)) : Step := do
  let st ← st.saveCandidate? g
  let (t, rest) ← read
  return ((st.allowKey false).emit t, rest)

def quoted (read : Option ScalarRead) : Option (Token × List Glyph) :=
  read.map fun r => (.scalar false r.text, r.rest)

def plain (st : Scan) (g : Glyph) (rest : List Glyph) : Step := do
  let st ← st.saveCandidate? g
  let r ← plain? st.inFlow (st.indent + 1) [] .none (g :: rest)
  return ((st.allowKey r.brokeLine).emit (.scalar true r.text), r.rest)

def block (st : Scan) (folding : Bool) (rest : List Glyph) : Step := do
  let st ← st.dropCandidate?
  let r ← block? folding st.indent rest
  return ((st.allowKey true).emit (.scalar false r.text), r.rest)

def isIndicator (c : Char) : Bool :=
  "-?:,[]\x7b\x7d#&*!|>'\"%@\x60".toList.contains c

/-- A plain scalar may begin with an indicator if it cannot be taken for one. -/
def beginsPlain (flow : Bool) (g : Glyph) (rest : List Glyph) : Bool :=
  !(g.isBlank || g.isBreak || isIndicator g.char) ||
    (g.char == '-' && !(rest.head?.any Glyph.isBlank)) ||
    (!flow && (g.char == '?' || g.char == ':') && !endsWord rest)

/-- Reads the next token. -/
def token (st : Scan) (g : Glyph) (rest : List Glyph) : Step :=
  let flow := st.inFlow
  if g.column = 0 ∧ g.char = '%' then st.directive rest
  else if isBorder '-' (g :: rest) then st.border .documentStart rest
  else if isBorder '.' (g :: rest) then st.border .documentEnd rest
  else match g.char with
    | '[' => st.openFlow .flowSequenceStart g rest
    | '\x7b' => st.openFlow .flowMappingStart g rest
    | ']' => st.closeFlow .flowSequenceEnd rest
    | '\x7d' => st.closeFlow .flowMappingEnd rest
    | ',' => st.flowEntry rest
    | '*' => st.simple g ((anchorName? rest).map fun (name, rest) => (.alias name, rest))
    | '&' => st.simple g ((anchorName? rest).map fun (name, rest) => (.anchor name, rest))
    | '!' => st.simple g ((tag? flow (g :: rest)).map fun (t, rest) => (.tag t, rest))
    | '\'' => st.simple g (quoted (singleQuoted? [] .none rest))
    | '"' => st.simple g (quoted (doubleQuoted? [] .none 0 rest))
    | c =>
      if c = '-' ∧ endsWord rest then st.blockEntry g rest
      else if c = '?' ∧ (flow ∨ endsWord rest) then st.explicitKey g rest
      else if c = ':' ∧ (flow ∨ endsWord rest) then st.value g rest
      else if (c = '|' ∨ c = '>') ∧ !flow then st.block (c == '>') rest
      else if beginsPlain flow g rest then st.plain g rest
      else none

/-- Ends all block collections at the end of the text. -/
def finish? (st : Scan) : Option (List Token) :=
  (st.closeBlocks (-1)).dropCandidate?.map (·.tokens.reverse)

/-- Reads all tokens; `fuel` bounds their number. -/
def run? : (fuel : Nat) → Scan → List Glyph → Option (List Token)
  | 0, _, _ => none
  | fuel + 1, st, s =>
    let (allowed, s) := skipGap st.inFlow false st.keyAllowed s
    let st := st.allowKey allowed
    match s with
    | [] => st.finish?
    | g :: rest => do
      let st ← st.dropStale? g
      let (st, rest) ← (st.closeBlocks g.column).token g rest
      run? fuel st rest

end Scan

/-- The tokens of a text; every token takes at least one glyph. -/
def tokens? (text : String) : Option (List Token) := do
  let s ← glyphs? text
  Scan.run? (s.length + 1) {} s

end TelemetryBindings.Yaml
