/-!
# Characters and where they stand

The structure of a YAML text hangs on the columns and lines of its characters, so a text is read as
a list of glyphs: characters with their place. Every line end is one glyph. A text with a character
that YAML does not allow has no glyphs.
-/
namespace TelemetryBindings.Yaml

structure Glyph where
  char : Char
  line : Nat
  column : Nat
  /-- The number of octets before this character. -/
  index : Nat
  deriving DecidableEq, Repr

def byteOrderMark : Char := '\ufeff'

/-- The characters that may stand in a text. -/
def isAllowed (c : Char) : Bool :=
  c == '\t' || c == '\n' || c == '\r' || (' ' ≤ c && c ≤ '~') || c == '\u0085' ||
    ('\u00a0' ≤ c && c ≤ '\ud7ff') || ('\ue000' ≤ c && c ≤ '\ufffd') || '\uffff' < c

def isBreakChar (c : Char) : Bool := c == '\n' || c == '\u2028' || c == '\u2029'

/-- A carriage return, the two together and the next-line character end a line just like a line
feed; the separators of lines and paragraphs end a line and stay themselves. -/
def glyphsFrom (line column index : Nat) : List Char → List Glyph
  | [] => []
  | '\r' :: '\n' :: cs => ⟨'\n', line, column, index⟩ :: glyphsFrom (line + 1) 0 (index + 2) cs
  | c :: cs =>
    let next := index + c.utf8Size
    let c := if c = '\r' ∨ c = '\u0085' then '\n' else c
    ⟨c, line, column, index⟩ ::
      if isBreakChar c then glyphsFrom (line + 1) 0 next cs
      else glyphsFrom line (column + 1) next cs

def glyphs? (text : String) : Option (List Glyph) :=
  let cs := text.toList
  if cs.all isAllowed then some (glyphsFrom 0 0 0 cs) else none

namespace Glyph

def isBreak (g : Glyph) : Bool := isBreakChar g.char

/-- A space or a tab. -/
def isBlank (g : Glyph) : Bool := g.char == ' ' || g.char == '\t'

/-- The characters of names: handles, anchors and directives. -/
def isWord (g : Glyph) : Bool := g.char.isAlphanum || g.char == '_' || g.char == '-'

end Glyph

/-- The text ends here, or a blank or a line end follows. -/
def endsWord : List Glyph → Bool
  | [] => true
  | g :: _ => g.isBlank || g.isBreak

/-- Three equal characters at the beginning of a line that stand alone mark the border of a
document. -/
def isBorder (mark : Char) : List Glyph → Bool
  | a :: b :: c :: rest =>
    a.column == 0 && a.char == mark && b.char == mark && c.char == mark && endsWord rest
  | _ => false

def isAnyBorder (s : List Glyph) : Bool := isBorder '-' s || isBorder '.' s

def skipBlanks (s : List Glyph) : List Glyph := s.dropWhile Glyph.isBlank

def skipLine (s : List Glyph) : List Glyph := s.dropWhile fun g => !g.isBreak

/-- What follows a directive or the header of a block: blanks, a comment and the end of the line. -/
def endLine? (s : List Glyph) : Option (List Glyph) :=
  match skipBlanks s with
  | [] => some []
  | g :: rest =>
    if g.char = '#' then some ((skipLine rest).drop 1)
    else if g.isBreak then some rest
    else none

def textOf (s : List Glyph) : String := String.ofList (s.map (·.char))

end TelemetryBindings.Yaml
