import TelemetryBindings.Text.CharClass

/-!
# Words of a name, and camel case

A name falls into words at every character that is not alphanumeric, and inside a run of
alphanumeric characters at changes of case: between a lower-case and an upper-case character
(`aB` is `a`, `B`), and before the last of several upper-case characters when a lower-case one
follows (`ABc` is `A`, `Bc`). Characters without case, such as digits, take no side.

`camel` lower-cases every word and capitalises all but the first; `pascal` capitalises all.
-/
namespace TelemetryBindings.Text

/-- The case of the last cased character of the current word. -/
inductive Side where
  | uncased
  | lower
  | upper
  deriving DecidableEq, Repr

def Side.after (side : Side) (c : Char) : Side :=
  if isLowercase c then .lower else if isUppercase c then .upper else side

/-- Splits a run of alphanumeric characters at changes of case; `word` is the current word so
far. -/
def splitCase (side : Side) (word : List Char) : List Char → List (List Char)
  | [] => []
  | [c] => [word ++ [c]]
  | c :: next :: rest =>
    if side.after c = .lower ∧ isUppercase next then
      (word ++ [c]) :: splitCase .uncased [] (next :: rest)
    else if side = .upper ∧ isUppercase c ∧ isLowercase next then
      word :: splitCase .uncased [c] (next :: rest)
    else
      splitCase (side.after c) (word ++ [c]) (next :: rest)

/-- The maximal runs of alphanumeric characters; `run` is the current run so far. -/
def alphanumericRuns (run : List Char) : List Char → List (List Char)
  | [] => [run]
  | c :: cs =>
    if isAlphanumeric c then alphanumericRuns (run ++ [c]) cs
    else run :: alphanumericRuns [] cs

def words (name : List Char) : List (List Char) :=
  (alphanumericRuns [] name).flatMap (splitCase .uncased [])

/-- Lower case, with the final form of sigma at the end of the word. -/
def lowerWord : List Char → List Char
  | [] => []
  | ['Σ'] => ['ς']
  | c :: cs => lowerChars c ++ lowerWord cs

def capitalize : List Char → List Char
  | [] => []
  | c :: cs => upperChars c ++ lowerWord cs

def camelChars (name : List Char) : List Char :=
  match words name with
  | [] => []
  | first :: rest => lowerWord first ++ rest.flatMap capitalize

def pascalChars (name : List Char) : List Char :=
  (words name).flatMap capitalize

/-- `dotted.category` becomes `dottedCategory`. -/
def camel (name : String) : String := String.ofList (camelChars name.toList)

/-- `dotted.category` becomes `DottedCategory`. -/
def pascal (name : String) : String := String.ofList (pascalChars name.toList)

end TelemetryBindings.Text
