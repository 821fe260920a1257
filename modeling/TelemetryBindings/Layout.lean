import TelemetryBindings.Text.Lines

/-!
# Layout of generated documents

A document is a header, the entries of its instruments separated by empty lines, and a footer.
Every entry has its preamble blocks, a comment made of free text, and its declaration. Free text
is escaped so that it can neither close a comment nor open one.
-/
namespace TelemetryBindings

/-- A generated file. -/
structure Document where
  fileName : String
  contents : String
  deriving DecidableEq, Repr

/-- The fixed text around the entries of a document. -/
structure Layout where
  /-- All text before the first entry, up to the opening of the container. -/
  header : String
  /-- All text after the last entry. -/
  footer : String
  /-- Stands before every line of an entry that is not empty. -/
  indent : String
  /-- Stands after the last line of every declaration. -/
  separator : String
  deriving DecidableEq, Repr

/-- An instrument as a target writes it. -/
structure Entry where
  description : String
  /-- The definition that the entry was generated from. -/
  reference : String
  /-- Declarations that stand before the documented one. -/
  preamble : List String
  declaration : String
  deriving DecidableEq, Repr

/-- Puts a backslash between the characters `a` and `b` wherever the pair occurs, reading from left
to right. -/
def breakPair (a b : Char) : List Char → List Char
  | [] => []
  | [c] => [c]
  | c :: d :: rest =>
    if c = a ∧ d = b then a :: '\\' :: b :: breakPair a b rest
    else c :: breakPair a b (d :: rest)

/-- Breaks the ends of comments first, and what still begins a comment afterwards. -/
def escapeCommentChars (line : List Char) : List Char :=
  breakPair '/' '*' (breakPair '*' '/' line)

/-- Keeps free text from closing a comment and from opening a nested one. -/
def escapeComment (line : String) : String :=
  String.ofList (escapeCommentChars line.toList)

/-- A line of free text inside a comment. -/
def commentLine (line : String) : String :=
  if line = "" then " *" else " * " ++ escapeComment line

namespace Entry

def commentLines (e : Entry) : List String :=
  "/**" :: (Text.lines e.description).map commentLine ++
    [" *", " * Generated from `" ++ escapeComment e.reference ++ "`.", " */"]

/-- The lines of a declaration, with the separator at the end of the last. -/
def terminated (separator : String) : List String → List String
  | [] => []
  | [last] => [last ++ separator]
  | line :: rest => line :: terminated separator rest

/-- All lines of the entry, before indentation. -/
def lines (separator : String) (e : Entry) : List String :=
  e.preamble.flatMap (fun block => Text.lines block ++ [""]) ++
    (e.commentLines ++ terminated separator (Text.lines e.declaration))

end Entry

namespace Layout

/-- Empty lines stay empty. -/
def indentLine (l : Layout) (line : String) : String :=
  if line = "" then "" else l.indent ++ line

/-- The lines of all entries, with an empty line between neighbours. -/
def bodyLines (l : Layout) : List Entry → List String
  | [] => []
  | [e] => e.lines l.separator
  | e :: rest => e.lines l.separator ++ "" :: bodyLines l rest

def render (l : Layout) (entries : List Entry) : String :=
  l.header ++ Text.unlines ((l.bodyLines entries).map l.indentLine) ++ l.footer

end Layout

end TelemetryBindings
