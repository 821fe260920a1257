import TelemetryBindings.Document.Yaml.Glyph
import TelemetryBindings.Text.Digits

/-!
# Tags and directives

A tag is written in full between angle brackets, or as a handle that a directive expands and a
suffix. Directives stand before a document and give its version and its handles.
-/
namespace TelemetryBindings.Yaml

/-- The characters of a tag. Flow indicators may stand only where they cannot end the tag. -/
def isTagGlyph (verbatim : Bool) (g : Glyph) : Bool :=
  g.isWord || ";/?:@&=+$.!~*'()%".toList.contains g.char ||
    (verbatim && ",[]".toList.contains g.char)

/-- Octets stand for a text in UTF-8, but need not form one. -/
abbrev Octets := List UInt8

def octetsOf (cs : List Char) : Octets := cs.flatMap String.utf8EncodeChar

/-- How many octets of a character are missing after an octet, of which `missing` were before. -/
def missingAfter? (missing octet : Nat) : Option Nat :=
  match missing with
  | 0 =>
    if octet < 0x80 then some 0
    else if octet / 0x20 = 6 then some 1
    else if octet / 0x10 = 14 then some 2
    else if octet / 0x08 = 30 then some 3
    else none
  | missing + 1 => if octet / 0x40 = 2 then some missing else none

/-- Decodes octets written as a percent sign and two digits. Those of one character have to follow
each other, whether they stand for one or not. -/
def percentDecode? (missing : Nat) : List Char → Option Octets
  | [] => if missing = 0 then some [] else none
  | '%' :: a :: b :: rest => do
    let octet ← Text.number? 16 [a, b]
    let missing ← missingAfter? missing octet
    let octets ← percentDecode? missing rest
    return octet.toUInt8 :: octets
  | c :: rest =>
    if c = '%' ∨ missing ≠ 0 then none
    else (String.utf8EncodeChar c ++ ·) <$> percentDecode? 0 rest

/-- The octets of a tag up to the first character that cannot belong to it. The octet zero ends the
tag, but not its spelling. -/
def tagText? (verbatim : Bool) (s : List Glyph) : Option (Octets × List Glyph) :=
  (percentDecode? 0 ((s.takeWhile (isTagGlyph verbatim)).map (·.char))).map fun octets =>
    (octets.takeWhile (· ≠ 0), s.dropWhile (isTagGlyph verbatim))

/-- As `tagText?`, where something has to be spelled. -/
def someTagText? (verbatim : Bool) (s : List Glyph) : Option (Octets × List Glyph) :=
  if s.head?.any (isTagGlyph verbatim) then tagText? verbatim s else none

/-- An exclamation mark, the characters of a name, and a second mark if there is one. -/
def handle? : List Glyph → Option (String × List Glyph)
  | [] => none
  | g :: rest =>
    if g.char ≠ '!' then none
    else
      let name := textOf (rest.takeWhile Glyph.isWord)
      match rest.dropWhile Glyph.isWord with
      | [] => some ("!" ++ name, [])
      | h :: tail =>
        if h.char = '!' then some ("!" ++ name ++ "!", tail) else some ("!" ++ name, h :: tail)

/-- A tag as it is written: its handle, which is empty for a tag in full, and its suffix. -/
structure Tag where
  handle : String
  suffix : Octets
  deriving DecidableEq, Repr

/-- Reads the text of a tag from its exclamation mark on. -/
def tagBody? (s : List Glyph) : Option (Tag × List Glyph) :=
  match s with
  | _ :: g :: rest =>
    if g.char = '<' then do
      let (suffix, rest) ← someTagText? true rest
      match rest with
      | h :: tail => if h.char = '>' then some (⟨"", suffix⟩, tail) else none
      | [] => none
    else short? s
  | _ => short? s
where
  short? (s : List Glyph) : Option (Tag × List Glyph) := do
    let (handle, rest) ← handle? s
    if handle ≠ "!" ∧ handle.endsWith "!" then
      let (suffix, rest) ← someTagText? false rest
      return (⟨handle, suffix⟩, rest)
    else
      let (more, rest) ← tagText? false rest
      let suffix := octetsOf (handle.toList.drop 1) ++ more
      return (if suffix.isEmpty then ⟨"", octetsOf ['!']⟩ else ⟨"!", suffix⟩, rest)

def tag? (flow : Bool) (s : List Glyph) : Option (Tag × List Glyph) := do
  let (tag, rest) ← tagBody? s
  if endsWord rest ∨ (flow ∧ rest.head?.any (·.char == ',')) then some (tag, rest) else none

/-- The name of an anchor or an alias, after its indicator. -/
def anchorName? (s : List Glyph) : Option (String × List Glyph) :=
  let name := s.takeWhile Glyph.isWord
  let rest := s.dropWhile Glyph.isWord
  let ended := endsWord rest || rest.head?.any fun g => "?:,]\x7d%@\x60".toList.contains g.char
  if name.isEmpty ∨ !ended then none else some (textOf name, rest)

inductive Directive where
  | version (major minor : Nat)
  /-- Tags with the handle begin with the given octets. -/
  | tag (handle : String) (expansion : Octets)
  deriving DecidableEq, Repr

/-- A number of at most nine digits. -/
def versionNumber? (s : List Glyph) : Option (Nat × List Glyph) :=
  let digits := s.takeWhile (·.char.isDigit)
  if digits.isEmpty ∨ 9 < digits.length then none
  else (Text.number? 10 (digits.map (·.char))).map (·, s.dropWhile (·.char.isDigit))

def versionDirective? (s : List Glyph) : Option (Directive × List Glyph) := do
  let (major, rest) ← versionNumber? (skipBlanks s)
  match rest with
  | g :: rest =>
    if g.char ≠ '.' then none
    else
      let (minor, rest) ← versionNumber? rest
      return (.version major minor, rest)
  | [] => none

def tagDirective? (s : List Glyph) : Option (Directive × List Glyph) := do
  let (handle, rest) ← handle? (skipBlanks s)
  if handle.endsWith "!" ∧ rest.head?.any Glyph.isBlank then
    let (expansion, rest) ← someTagText? true (skipBlanks rest)
    if endsWord rest then some (.tag handle expansion, rest) else none
  else none

/-- Reads a directive after its percent sign, up to the end of the line. -/
def directive? (s : List Glyph) : Option (Directive × List Glyph) := do
  let name := textOf (s.takeWhile Glyph.isWord)
  let rest := s.dropWhile Glyph.isWord
  if !endsWord rest then none
  let (directive, rest) ←
    if name = "YAML" then versionDirective? rest
    else if name = "TAG" then tagDirective? rest
    else none
  let rest ← endLine? rest
  return (directive, rest)

end TelemetryBindings.Yaml
