import TelemetryBindings.Text.Words

/-!
# Names in definitions

The grammars of metric names, categories, ping names and labels, each with a limit on the number
of UTF-8 bytes. All of them consist of ASCII characters. Categories and labels are names joined by
single dots, recognised in one pass.
-/
namespace TelemetryBindings.Identifier

/-- The characters that may begin a name and those that may continue it. -/
structure Grammar where
  begins : Char → Bool
  continues : Char → Bool

/-- Letters, digits and underscores, with no digit in front. -/
def Grammar.code : Grammar where
  begins c := c.isAlpha || c == '_'
  continues c := c.isAlphanum || c == '_'

/-- As `Grammar.code`, with dashes after the first character. -/
def Grammar.ping : Grammar where
  begins := Grammar.code.begins
  continues c := Grammar.code.continues c || c == '-'

/-- As `Grammar.ping`, without upper-case letters. -/
def Grammar.label : Grammar where
  begins c := c.isLower || c == '_'
  continues c := c.isLower || c.isDigit || c == '_' || c == '-'

def Grammar.accepts (g : Grammar) : List Char → Bool
  | [] => false
  | c :: cs => g.begins c && cs.all g.continues

/-- Names joined by single dots; `fresh` says that a name has to begin here. -/
def Grammar.acceptsDotted (g : Grammar) : (fresh : Bool) → List Char → Bool
  | fresh, [] => !fresh
  | true, c :: cs => g.begins c && g.acceptsDotted false cs
  | false, c :: cs =>
    if c = '.' then g.acceptsDotted true cs else g.continues c && g.acceptsDotted false cs

def maxCategoryLength : Nat := 40
def maxNameLength : Nat := 30
def maxExtraKeyLength : Nat := 40
def maxPingNameLength : Nat := 30
def maxLabelLength : Nat := 71

/-- Metric names, extra keys and reason codes. -/
def isIdentifier (value : String) (maxLength : Nat) : Bool :=
  value.utf8ByteSize ≤ maxLength && Grammar.code.accepts value.toList

def isCategory (value : String) : Bool :=
  value.utf8ByteSize ≤ maxCategoryLength && Grammar.code.acceptsDotted true value.toList

/-- Ping names, which also appear in `send_in_pings`. -/
def isPingName (value : String) : Bool :=
  value.utf8ByteSize ≤ maxPingNameLength && Grammar.ping.accepts value.toList

def isLabel (value : String) : Bool :=
  value.utf8ByteSize ≤ maxLabelLength && Grammar.label.acceptsDotted true value.toList

end TelemetryBindings.Identifier
