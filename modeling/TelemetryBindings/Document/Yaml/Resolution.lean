import TelemetryBindings.Document.Datum
import TelemetryBindings.Document.Yaml.Tag

/-!
# What scalars mean

A plain scalar without a tag is null, a boolean, an integer or a float if it is spelled like one,
and a string otherwise. All other scalars are strings, unless a tag of the core schema demands a
type or a tag of an application's own refuses them. Integers that need more than 64 but at most
128 bits are refused.
-/
namespace TelemetryBindings.Yaml

def isNullWord (s : String) : Bool := ["null", "Null", "NULL", "~"].contains s

def boolWord? (s : String) : Option Bool :=
  if ["true", "True", "TRUE"].contains s then some true
  else if ["false", "False", "FALSE"].contains s then some false
  else none

/-- What follows a sign. -/
def unsign : List Char → List Char
  | '+' :: cs | '-' :: cs => cs
  | cs => cs

/-- Digits with a zero in front that has no place in a number. -/
def isZeroPadded (cs : List Char) : Bool :=
  match unsign cs with
  | '0' :: d :: ds => (d :: ds).all Char.isDigit
  | _ => false

/-- At least one digit in a base. -/
def naturalIn? (base : Nat) (cs : List Char) : Option Nat :=
  if cs.isEmpty then none else Text.number? base cs

/-- A natural number: decimal, or in the base that a leading `0x`, `0o` or `0b` gives. -/
def natural? (cs : List Char) : Option Nat :=
  match cs with
  | '0' :: 'x' :: ds => naturalIn? 16 ds
  | '0' :: 'o' :: ds => naturalIn? 8 ds
  | '0' :: 'b' :: ds => naturalIn? 2 ds
  | _ => if isZeroPadded cs then none else naturalIn? 10 cs

/-- The meaning of an integer with the given sign and magnitude: refused if it needs more than 64
bits, and no integer at all if it needs more than 128. -/
def sizedInteger? (negative : Bool) (n : Nat) : Option (Option Datum) :=
  if negative then
    if n ≤ 0x8000000000000000 then some (some (.signed (.ofInt (-n))))
    else if n ≤ 0x80000000000000000000000000000000 then some none
    else none
  else
    if n < 0x10000000000000000 then some (some (.unsigned n.toUInt64))
    else if n < 0x100000000000000000000000000000000 then some none
    else none

/-- `none` if the text is no integer, `some none` if it is one that is refused. -/
def integer? (cs : List Char) : Option (Option Datum) :=
  match cs with
  | '-' :: ds => (natural? ds).bind (sizedInteger? true)
  | '+' :: ds => (natural? ds).bind (sizedInteger? false)
  | _ => (natural? cs).bind (sizedInteger? false)

/-- The exponent at the end of a decimal. -/
def exponent? : List Char → Option Int
  | [] => some 0
  | 'e' :: '-' :: ds | 'E' :: '-' :: ds => (naturalIn? 10 ds).map fun n => -n
  | 'e' :: '+' :: ds | 'E' :: '+' :: ds => (naturalIn? 10 ds).map fun n => n
  | 'e' :: ds | 'E' :: ds => (naturalIn? 10 ds).map fun n => n
  | _ => none

/-- Digits with at most one point among them, and an exponent. -/
def decimal? (cs : List Char) : Option Double := do
  let whole := cs.takeWhile Char.isDigit
  let rest := cs.dropWhile Char.isDigit
  let (fraction, rest) := match rest with
    | '.' :: tail => (tail.takeWhile Char.isDigit, tail.dropWhile Char.isDigit)
    | _ => ([], rest)
  let digits ← naturalIn? 10 (whole ++ fraction)
  let exponent ← exponent? rest
  let double := Double.ofDecimal digits (exponent - fraction.length)
  if double.isFinite then some double else none

def isInfinityWord (cs : List Char) : Bool :=
  [".inf", ".Inf", ".INF"].contains (String.ofList cs)

def isNanWord (cs : List Char) : Bool := [".nan", ".NaN", ".NAN"].contains (String.ofList cs)

def float? (cs : List Char) : Option Double :=
  match cs with
  | '+' :: ds => if isInfinityWord ds then some .infinity else decimal? ds
  | '-' :: ds =>
    if isInfinityWord ds then some (.negate .infinity) else (decimal? ds).map .negate
  | _ =>
    if isInfinityWord cs then some .infinity
    else if isNanWord cs then some .nan
    else decimal? cs

/-- The meaning of a plain scalar without a tag. -/
def untagged? (s : String) : Option Datum :=
  let cs := s.toList
  if s = "" ∨ isNullWord s then some .null
  else match boolWord? s with
    | some b => some (.bool b)
    | none =>
      match integer? cs with
      | some datum => datum
      | none =>
        if isZeroPadded cs then some (.string s)
        else match float? cs with
          | some d => some (.float d)
          | none => some (.string s)

def coreTag (type : String) : Octets := octetsOf ("tag:yaml.org,2002:" ++ type).toList

/-- The tag begins with an exclamation mark. -/
def isLocalTag (tag : Octets) : Bool := tag.head? == some '!'.toUInt8

/-- The tag is of an application's own: local, and readable as a text. -/
def isOwnTag (tag : Octets) : Bool := isLocalTag tag && ByteArray.validateUTF8 ⟨tag.toArray⟩

/-- The meaning of a scalar with a tag. Tags of an application's own are refused, and a local tag
that is no text does not matter. -/
def tagged? (tag : Octets) (plain : Bool) (s : String) : Option Datum :=
  if isOwnTag tag then none
  else if isLocalTag tag then if plain then untagged? s else some (.string s)
  else if tag = coreTag "bool" then (boolWord? s).map .bool
  else if tag = coreTag "int" then (integer? s.toList).join
  else if tag = coreTag "float" then (float? s.toList).map .float
  else if tag = coreTag "null" then if isNullWord s then some .null else none
  else some (.string s)

/-- The meaning of a scalar. -/
def scalar? (tag : Option Octets) (plain : Bool) (s : String) : Option Datum :=
  match tag with
  | some tag => tagged? tag plain s
  | none => if plain then untagged? s else some (.string s)

end TelemetryBindings.Yaml
