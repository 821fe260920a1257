/-!
# Sorted sets of texts

Texts are ordered by their characters, which for well-formed text is also the order of their UTF-8
bytes.
-/
namespace TelemetryBindings.Text

/-- Inserts a text at its place in an ascending list, unless it is there already. -/
def insertSorted (s : String) : List String → List String
  | [] => [s]
  | t :: rest =>
    if s < t then s :: t :: rest
    else if s = t then t :: rest
    else t :: insertSorted s rest

/-- The distinct texts of a list in ascending order. -/
def sortedSet (texts : List String) : List String :=
  texts.foldl (fun sorted s => insertSorted s sorted) []

end TelemetryBindings.Text
