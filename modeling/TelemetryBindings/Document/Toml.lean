import TelemetryBindings.Document.Datum
import TelemetryBindings.Text.Digits

/-!
# Reading flat TOML

Settings are one key and one value a line: a boolean, an integer or a string in any of the four
quotations. No setting is a table, an array, a float or a date, so none of these is read. A key may
stand only once.
-/
namespace TelemetryBindings.Toml

def isSpace (c : Char) : Bool := c == ' ' || c == '\t'

def skipSpaces (cs : List Char) : List Char := cs.dropWhile isSpace

/-- The characters that may stand neither in strings nor in comments. -/
def isControl (c : Char) : Bool := (c.toNat < 0x20 && c != '\t') || c.toNat == 0x7F

def newline? : List Char → Option (List Char)
  | '\n' :: cs | '\r' :: '\n' :: cs => some cs
  | _ => none

/-- Blanks and a comment up to the end of the line or of the text. -/
def endLine? (cs : List Char) : Option (List Char) :=
  let afterComment := match skipSpaces cs with
    | '#' :: cs => cs.dropWhile fun c => !isControl c
    | cs => cs
  if afterComment.isEmpty then some [] else newline? afterComment

/-! ### Strings

The characters that were read are kept in reverse. -/

/-- What a letter after a backslash stands for. -/
def escaped? : Char → Option Char
  | 'b' => some '\x08'
  | 't' => some '\t'
  | 'n' => some '\n'
  | 'f' => some '\x0c'
  | 'r' => some '\r'
  | 'e' => some '\x1b'
  | '"' => some '"'
  | '\\' => some '\\'
  | _ => none

/-- The character with the number that some digits denote. -/
def codeChar? (digits : List Char) : Option Char := do
  let n ← Text.number? 16 digits
  if h : n.isValidChar then some (.ofNatAux n h) else none

/-- A string in quotes, after the opening one. -/
def basic? (read : List Char) : List Char → Option (String × List Char)
  | '"' :: rest => some (String.ofList read.reverse, rest)
  | '\\' :: 'x' :: a :: b :: rest =>
    match codeChar? [a, b] with
    | some x => basic? (x :: read) rest
    | none => none
  | '\\' :: 'u' :: a :: b :: c :: d :: rest =>
    match codeChar? [a, b, c, d] with
    | some x => basic? (x :: read) rest
    | none => none
  | '\\' :: 'U' :: a :: b :: c :: d :: e :: f :: g :: h :: rest =>
    match codeChar? [a, b, c, d, e, f, g, h] with
    | some x => basic? (x :: read) rest
    | none => none
  | '\\' :: e :: rest =>
    match escaped? e with
    | some x => basic? (x :: read) rest
    | none => none
  | c :: rest => if isControl c then none else basic? (c :: read) rest
  | [] => none

/-- A string in apostrophes, after the opening one. -/
def literal? (read : List Char) : List Char → Option (String × List Char)
  | '\'' :: rest => some (String.ofList read.reverse, rest)
  | c :: rest => if isControl c then none else literal? (c :: read) rest
  | [] => none

/-- A string in three quotes, after the opening ones. A backslash at the end of a line removes the
blanks and line ends that follow; `trimming` says that this is going on. -/
def longBasic? (trimming : Bool) (read : List Char) : List Char → Option (String × List Char)
  | '"' :: '"' :: '"' :: '"' :: '"' :: rest =>
    some (String.ofList ('"' :: '"' :: read).reverse, rest)
  | '"' :: '"' :: '"' :: '"' :: rest => some (String.ofList ('"' :: read).reverse, rest)
  | '"' :: '"' :: '"' :: rest => some (String.ofList read.reverse, rest)
  | '\\' :: 'x' :: a :: b :: rest =>
    match codeChar? [a, b] with
    | some x => longBasic? false (x :: read) rest
    | none => none
  | '\\' :: 'u' :: a :: b :: c :: d :: rest =>
    match codeChar? [a, b, c, d] with
    | some x => longBasic? false (x :: read) rest
    | none => none
  | '\\' :: 'U' :: a :: b :: c :: d :: e :: f :: g :: h :: rest =>
    match codeChar? [a, b, c, d, e, f, g, h] with
    | some x => longBasic? false (x :: read) rest
    | none => none
  | '\\' :: e :: rest =>
    if (newline? (skipSpaces (e :: rest))).isSome then longBasic? true read (e :: rest)
    else match escaped? e with
      | some x => longBasic? false (x :: read) rest
      | none => none
  | '\r' :: '\n' :: rest =>
    longBasic? trimming (if trimming then read else '\n' :: '\r' :: read) rest
  | c :: rest =>
    if c = '\n' ∨ (trimming ∧ isSpace c) then
      longBasic? trimming (if trimming then read else c :: read) rest
    else if isControl c then none
    else longBasic? false (c :: read) rest
  | [] => none

/-- A string in three apostrophes, after the opening ones. -/
def longLiteral? (read : List Char) : List Char → Option (String × List Char)
  | '\'' :: '\'' :: '\'' :: '\'' :: '\'' :: rest =>
    some (String.ofList ('\'' :: '\'' :: read).reverse, rest)
  | '\'' :: '\'' :: '\'' :: '\'' :: rest => some (String.ofList ('\'' :: read).reverse, rest)
  | '\'' :: '\'' :: '\'' :: rest => some (String.ofList read.reverse, rest)
  | '\r' :: '\n' :: rest => longLiteral? ('\n' :: '\r' :: read) rest
  | c :: rest => if isControl c ∧ c ≠ '\n' then none else longLiteral? (c :: read) rest
  | [] => none

/-- A line end right after the opening quotes does not count. -/
def dropNewline (cs : List Char) : List Char := (newline? cs).getD cs

def shortString? : List Char → Option (String × List Char)
  | '"' :: cs => basic? [] cs
  | '\'' :: cs => literal? [] cs
  | _ => none

def string? : List Char → Option (String × List Char)
  | '"' :: '"' :: '"' :: cs => longBasic? false [] (dropNewline cs)
  | '\'' :: '\'' :: '\'' :: cs => longLiteral? [] (dropNewline cs)
  | cs => shortString? cs

/-! ### Integers and lines -/

/-- Digits with single underscores between them. -/
def digits? (base : Nat) (cs : List Char) : Option Nat :=
  let groups := cs.splitOnP (· == '_')
  if groups.any (·.isEmpty) then none else Text.number? base groups.flatten

/-- An integer: decimal without leading zeros, or in another base and without a sign. -/
def integer? (cs : List Char) : Option Int :=
  match cs with
  | '0' :: 'x' :: ds => (digits? 16 ds).map fun n => n
  | '0' :: 'o' :: ds => (digits? 8 ds).map fun n => n
  | '0' :: 'b' :: ds => (digits? 2 ds).map fun n => n
  | '-' :: ds => (decimal? ds).map fun n => -n
  | '+' :: ds => (decimal? ds).map fun n => n
  | ds => (decimal? ds).map fun n => n
where
  decimal? (ds : List Char) : Option Nat :=
    match ds with
    | '0' :: _ :: _ => none
    | ds => digits? 10 ds

/-- An integer of 64 signed bits. -/
def integerDatum? (cs : List Char) : Option Datum :=
  match integer? cs with
  | some i =>
    if -0x8000000000000000 ≤ i ∧ i < 0x8000000000000000 then some (.signed (.ofInt i)) else none
  | none => none

def isBareKeyChar (c : Char) : Bool := c.isAlphanum || c == '_' || c == '-'

def key? (cs : List Char) : Option (String × List Char) :=
  let bare := cs.takeWhile isBareKeyChar
  if bare.isEmpty then shortString? cs
  else some (String.ofList bare, cs.dropWhile isBareKeyChar)

/-- The characters of booleans and integers. -/
def isWordChar (c : Char) : Bool := c.isAlphanum || c == '_' || c == '-' || c == '+'

def value? (cs : List Char) : Option (Datum × List Char) :=
  match string? cs with
  | some (s, rest) => some (.string s, rest)
  | none =>
    let word := cs.takeWhile isWordChar
    let rest := cs.dropWhile isWordChar
    if word = "true".toList then some (.bool true, rest)
    else if word = "false".toList then some (.bool false, rest)
    else (integerDatum? word).map (·, rest)

/-- A setting, up to the end of its line. -/
def setting? (cs : List Char) : Option ((String × Datum) × List Char) := do
  let (key, rest) ← key? cs
  match skipSpaces rest with
  | '=' :: rest =>
    let (d, rest) ← value? (skipSpaces rest)
    let rest ← endLine? rest
    return ((key, d), rest)
  | _ => none

/-- The settings of all lines; `fuel` bounds their number. -/
def settings? : (fuel : Nat) → List Char → Option (List (String × Datum))
  | 0, _ => some []
  | _ + 1, [] => some []
  | fuel + 1, cs =>
    match endLine? cs with
    | some rest => settings? fuel rest
    | none => do
      let (entry, rest) ← setting? (skipSpaces cs)
      let entries ← settings? fuel rest
      return entry :: entries

/-- Reads a text of settings. -/
def read? (text : String) : Option Datum := do
  let cs := text.toList
  let cs := if cs.head? = some '\ufeff' then cs.tail else cs
  let entries ← settings? cs.length cs
  if (entries.map (·.1)).Nodup then
    some (.mapping (entries.map fun (key, d) => (.string key, d)))
  else none

end TelemetryBindings.Toml
