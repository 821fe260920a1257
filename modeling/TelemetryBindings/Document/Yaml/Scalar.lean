import TelemetryBindings.Document.Yaml.Glyph
import TelemetryBindings.Text.Digits

/-!
# Written forms of scalars

The text of plain, quoted and block scalars. Plain and quoted scalars may span lines: a single line
end counts as a space, and of several the first is dropped. Characters that were read are kept in
reverse until the scalar ends.
-/
namespace TelemetryBindings.Yaml

/-- The blanks and line ends since the last character of a scalar. -/
inductive Gap where
  | none
  /-- Blanks inside a line, reversed. -/
  | blanks (read : List Char)
  /-- Line ends: the first, if it counts, and the later ones, reversed. -/
  | breaks (first : Option Char) (later : List Char)

namespace Gap

def isNone : Gap → Bool
  | none => true
  | _ => false

def isBreaks : Gap → Bool
  | breaks .. => true
  | _ => false

/-- Blanks around line ends do not count. -/
def addBlank (c : Char) : Gap → Gap
  | none => blanks [c]
  | blanks read => blanks (c :: read)
  | breaks first later => breaks first later

def addBreak (c : Char) : Gap → Gap
  | breaks first later => breaks first (c :: later)
  | _ => breaks (some c) []

/-- What the gap stands for, reversed. -/
def folded : Gap → List Char
  | none => []
  | blanks read => read
  | breaks (some '\n') [] => [' ']
  | breaks (some '\n') later => later
  | breaks (some c) later => later ++ [c]
  | breaks .none later => later

end Gap

/-- A colon right before one of these is an error inside a flow collection. -/
def isFlowFollower (c : Char) : Bool :=
  c == ',' || c == '?' || c == '[' || c == ']' || c == '\x7b' || c == '\x7d'

/-- Characters that end a plain scalar inside a flow collection. -/
def isFlowIndicator (c : Char) : Bool :=
  c == ',' || c == '[' || c == ']' || c == '\x7b' || c == '\x7d'

/-- A scalar that was read: its text, whether line ends follow it, and the rest. -/
structure ScalarRead where
  text : String
  brokeLine : Bool := false
  rest : List Glyph

/-- Reads a plain scalar. `flow` says that it stands in a flow collection; in block context every
further line has to be indented by `indent` columns. -/
def plain? (flow : Bool) (indent : Int) (read : List Char) (gap : Gap) :
    List Glyph → Option ScalarRead
  | [] => some ⟨String.ofList read.reverse, gap.isBreaks, []⟩
  | g :: rest =>
    let stop := some ⟨String.ofList read.reverse, gap.isBreaks, g :: rest⟩
    if g.isBreak then plain? flow indent read (gap.addBreak g.char) rest
    else if g.isBlank then
      if gap.isBreaks ∧ g.column < indent ∧ g.char = '\t' then none
      else plain? flow indent read (gap.addBlank g.char) rest
    else
      if !gap.isNone ∧ !flow ∧ g.column < indent then stop
      else if !gap.isNone ∧ (isAnyBorder (g :: rest) ∨ g.char = '#') then stop
      else if flow ∧ g.char = ':' ∧ rest.head?.any (isFlowFollower ·.char) then none
      else if (g.char = ':' ∧ endsWord rest) ∨ (flow ∧ isFlowIndicator g.char) then stop
      else plain? flow indent (g.char :: (gap.folded ++ read)) .none rest

/-- Reads a single-quoted scalar after its opening quote. -/
def singleQuoted? (read : List Char) (gap : Gap) : List Glyph → Option ScalarRead
  | [] => none
  | [g] =>
    if g.char = '\'' then some { text := String.ofList (gap.folded ++ read).reverse, rest := [] }
    else none
  | g :: h :: rest =>
    if g.isBreak then singleQuoted? read (gap.addBreak g.char) (h :: rest)
    else if g.isBlank then singleQuoted? read (gap.addBlank g.char) (h :: rest)
    else
      let before := gap.folded ++ read
      if isAnyBorder (g :: h :: rest) then none
      else if g.char = '\'' then
        if h.char = '\'' then singleQuoted? ('\'' :: before) .none rest
        else some { text := String.ofList before.reverse, rest := h :: rest }
      else singleQuoted? (g.char :: before) .none (h :: rest)

/-- What a letter after a backslash stands for. -/
def escaped? : Char → Option Char
  | '0' => some '\x00'
  | 'a' => some '\x07'
  | 'b' => some '\x08'
  | 't' | '\t' => some '\t'
  | 'n' => some '\n'
  | 'v' => some '\x0b'
  | 'f' => some '\x0c'
  | 'r' => some '\r'
  | 'e' => some '\x1b'
  | ' ' => some ' '
  | '"' => some '"'
  | '/' => some '/'
  | '\\' => some '\\'
  | 'N' => some '\u0085'
  | '_' => some '\u00a0'
  | 'L' => some '\u2028'
  | 'P' => some '\u2029'
  | _ => none

/-- The number of hexadecimal digits after a letter that announces a character by its number. -/
def codeLength? : Char → Option Nat
  | 'x' => some 2
  | 'u' => some 4
  | 'U' => some 8
  | _ => none

/-- The character with the number that some glyphs denote. -/
def codeChar? (digits : List Glyph) : Option Char := do
  let n ← Text.number? 16 (digits.map (·.char))
  if h : n.isValidChar then some (.ofNatAux n h) else none

/-- Reads a double-quoted scalar after its opening quote. `skip` glyphs belong to an escape that was
read already. -/
def doubleQuoted? (read : List Char) (gap : Gap) : (skip : Nat) → List Glyph → Option ScalarRead
  | _, [] => none
  | skip + 1, _ :: rest => doubleQuoted? read gap skip rest
  | 0, g :: rest =>
    if g.isBreak then doubleQuoted? read (gap.addBreak g.char) 0 rest
    else if g.isBlank then doubleQuoted? read (gap.addBlank g.char) 0 rest
    else
      let before := gap.folded ++ read
      if isAnyBorder (g :: rest) then none
      else if g.char = '"' then some { text := String.ofList before.reverse, rest }
      else if g.char = '\\' then
        match rest with
        | [] => none
        | e :: tail =>
          if e.isBreak then doubleQuoted? before (.breaks .none []) 1 rest
          else match codeLength? e.char with
            | some length =>
              match codeChar? (tail.take length) with
              | some c =>
                if tail.length < length then none
                else doubleQuoted? (c :: before) .none (length + 1) rest
              | none => none
            | none =>
              match escaped? e.char with
              | some c => doubleQuoted? (c :: before) .none 1 rest
              | none => none
      else doubleQuoted? (g.char :: before) .none 0 rest

/-- What becomes of the line ends at the end of a block. -/
inductive Chomping where
  | strip
  | clip
  | keep
  deriving DecidableEq, Repr

def chomping? : Char → Option Chomping
  | '-' => some .strip
  | '+' => some .keep
  | _ => none

/-- The digit that gives the indentation of a block; zero is refused. -/
def increment? (g : Glyph) : Option Nat := (Text.digitValue? 10 g.char).filter (· ≠ 0)

/-- The header of a block, an indentation and a chomping in either order; the indentation is 0 if it
is not given. -/
def blockHeader? (s : List Glyph) : Option (Nat × Chomping × List Glyph) := do
  let (first, s₁) := leadingChomping s
  let (increment, s₂) ← leadingIncrement? s₁
  let (second, s₃) := if first.isNone then leadingChomping s₂ else (none, s₂)
  let chomping := (first <|> second).getD .clip
  let rest ← endLine? s₃
  return (increment, chomping, rest)
where
  leadingChomping : List Glyph → Option Chomping × List Glyph
    | [] => (none, [])
    | g :: rest =>
      match chomping? g.char with
      | some c => (some c, rest)
      | none => (none, g :: rest)
  leadingIncrement? : List Glyph → Option (Nat × List Glyph)
    | [] => some (0, [])
    | g :: rest =>
      if g.char.isDigit then (increment? g).map (·, rest) else some (0, g :: rest)

/-- Reads the indentation of lines and empty lines: the line ends, reversed, and the widest
indentation. An indentation of 0 is not known yet. A tab in the indentation is refused. -/
def blockBreaks? (indent widest : Nat) (read : List Char) :
    List Glyph → Option (List Char × Nat × List Glyph)
  | [] => some (read, widest, [])
  | g :: rest =>
    if (indent = 0 ∨ g.column < indent) ∧ g.char = ' ' then blockBreaks? indent widest read rest
    else if (indent = 0 ∨ g.column < indent) ∧ g.char = '\t' then none
    else if g.isBreak then blockBreaks? indent (max widest g.column) (g.char :: read) rest
    else some (read, max widest g.column, g :: rest)

/-- The text of a block as far as it was read, reversed. -/
structure BlockText where
  read : List Char := []
  /-- The end of the last line with text. -/
  lastBreak : List Char := []
  /-- The ends of the empty lines since. -/
  emptyBreaks : List Char := []
  /-- The last line with text began with a blank. -/
  blankLine : Bool := false

namespace BlockText

/-- The line ends before a new line with text, reversed. Folding makes a space of a single line end
and drops the first of several, except next to lines that begin with a blank. -/
def joined (folding blankNext : Bool) (b : BlockText) : List Char :=
  if folding ∧ b.lastBreak = ['\n'] ∧ !b.blankLine ∧ !blankNext then
    if b.emptyBreaks.isEmpty then [' '] else b.emptyBreaks
  else b.emptyBreaks ++ b.lastBreak

def finish (chomping : Chomping) (b : BlockText) : List Char :=
  match chomping with
  | .strip => b.read
  | .clip => b.lastBreak ++ b.read
  | .keep => b.emptyBreaks ++ b.lastBreak ++ b.read

end BlockText

/-- Reads the lines of a block that are indented by `indent` columns; `fuel` bounds their number. -/
def blockLines? (folding : Bool) (indent : Nat) : (fuel : Nat) → BlockText → List Glyph →
    Option (BlockText × List Glyph)
  | 0, b, s => some (b, s)
  | _ + 1, b, [] => some (b, [])
  | fuel + 1, b, g :: rest =>
    if g.column ≠ indent then some (b, g :: rest)
    else
      let line := (g :: rest).takeWhile fun g => !g.isBreak
      let tail := skipLine (g :: rest)
      match blockBreaks? indent 0 [] (tail.drop 1) with
      | none => none
      | some (emptyBreaks, _, tail') =>
        blockLines? folding indent fuel
          { read := (line.map (·.char)).reverse ++ (b.joined folding g.isBlank ++ b.read)
            lastBreak := (tail.take 1).map (·.char)
            emptyBreaks
            blankLine := g.isBlank }
          tail'

/-- Reads a block scalar after its indicator; `parent` is the indentation of the collection around
it, or -1. -/
def block? (folding : Bool) (parent : Int) (s : List Glyph) : Option ScalarRead := do
  let (increment, chomping, s) ← blockHeader? s
  let given := if increment = 0 then 0 else (max parent 0).toNat + increment
  let (emptyBreaks, widest, s) ← blockBreaks? given 0 [] s
  let indent := if given = 0 then max widest (max (parent + 1) 1).toNat else given
  let (b, rest) ← blockLines? folding indent s.length { emptyBreaks } s
  return { text := String.ofList (b.finish chomping).reverse, brokeLine := true, rest }

end TelemetryBindings.Yaml
