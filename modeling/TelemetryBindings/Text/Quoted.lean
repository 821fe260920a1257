/-!
# Quoted text

A quoted text is its characters, each in its written form, between double quotes. A notation says
how a character is written.
-/
namespace TelemetryBindings.Text

def quoteChars (written : Char → List Char) (text : List Char) : List Char :=
  '"' :: text.flatMap written ++ ['"']

def quote (written : Char → List Char) (text : String) : String :=
  String.ofList (quoteChars written text.toList)

/-- Four hexadecimal digits, in lower case. -/
def hexDigits (n : Nat) : List Char :=
  [n / 0x1000 % 16, n / 0x100 % 16, n / 0x10 % 16, n % 16].map Nat.digitChar

/-- The notation of JSON: quotes, backslashes and control characters are escaped, and the control
characters without a letter of their own are written by their number. -/
def jsonEscape (c : Char) : List Char :=
  match c with
  | '"' => ['\\', '"']
  | '\\' => ['\\', '\\']
  | '\x08' => ['\\', 'b']
  | '\t' => ['\\', 't']
  | '\n' => ['\\', 'n']
  | '\x0c' => ['\\', 'f']
  | '\r' => ['\\', 'r']
  | c => if c.toNat < 0x20 then '\\' :: 'u' :: hexDigits c.toNat else [c]

/-- Quotes, backslashes, tabs and the ends of lines are escaped; everything else stands for
itself. -/
def plainEscape (c : Char) : List Char :=
  match c with
  | '"' => ['\\', '"']
  | '\\' => ['\\', '\\']
  | '\n' => ['\\', 'n']
  | '\r' => ['\\', 'r']
  | '\t' => ['\\', 't']
  | c => [c]

/-- As `plainEscape`, with the dollar sign escaped too, since it would begin a template. -/
def templateEscape (c : Char) : List Char :=
  if c = '$' then ['\\', '$'] else plainEscape c

end TelemetryBindings.Text
