/-!
# Closed vocabularies

Types whose values are spelled by fixed words in definition documents.
-/
namespace TelemetryBindings

/-- All values of a type, and the word for each. -/
class Vocabulary (α : Type) where
  all : List α
  word : α → String

namespace Vocabulary

variable {α : Type} [Vocabulary α]

/-- The value that a word stands for; only the exact spelling counts. -/
def ofWord? (s : String) : Option α := all.find? fun a => word a == s

end Vocabulary

end TelemetryBindings
