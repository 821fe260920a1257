/-!
# Lines of a text

A line ends at a line feed, a carriage return before the line feed belongs to the line end, and a
text that ends in a line feed has no empty last line.
-/
namespace TelemetryBindings.Text

/-- Puts a character in front of the first line. -/
def consLine (c : Char) : List (List Char) → List (List Char)
  | [] => [[c]]
  | line :: rest => (c :: line) :: rest

def splitLines : List Char → List (List Char)
  | [] => []
  | '\n' :: cs => [] :: splitLines cs
  | '\r' :: '\n' :: cs => [] :: splitLines cs
  | c :: cs => consLine c (splitLines cs)

def lines (text : String) : List String :=
  (splitLines text.toList).map String.ofList

/-- Every line followed by a line feed. -/
def unlines : List String → String
  | [] => ""
  | line :: rest => line ++ "\n" ++ unlines rest

/-- The parts with a separator between neighbours. -/
def joinWith (separator : String) : List String → String
  | [] => ""
  | [part] => part
  | part :: rest => part ++ separator ++ joinWith separator rest

/-- Puts an indent in front of every line; the result does not end in a line feed. -/
def indentAll (indent text : String) : String :=
  joinWith "\n" ((lines text).map (indent ++ ·))

/-- Puts an indent in front of every line but the first. -/
def indentContinuation (indent text : String) : String :=
  match lines text with
  | [] => ""
  | first :: rest => joinWith "\n" (first :: rest.map (indent ++ ·))

theorem splitLines_lineFeed (cs : List Char) : splitLines ('\n' :: cs) = [] :: splitLines cs := rfl

end TelemetryBindings.Text
