import TelemetryBindings.Document.Datum
import TelemetryBindings.Text.Digits

/-!
# Reading JSON

`Json.read?` reads one JSON text. Collections may be nested 127 deep. Integers keep their sign and
width as long as they fit 64 bits; all other numbers become doubles, computed from the first
significant digits and a power of ten, and a number beyond the doubles is refused.
-/
namespace TelemetryBindings.Json

def isBlank (c : Char) : Bool := c == ' ' || c == '\t' || c == '\n' || c == '\r'

def skipBlanks (cs : List Char) : List Char := cs.dropWhile isBlank

/-- The text after a fixed beginning. -/
def expect? : List Char → List Char → Option (List Char)
  | [], cs => some cs
  | e :: es, c :: cs => if e = c then expect? es cs else none
  | _ :: _, [] => none

/-! ### Strings -/

/-- A part of a string: a character, or a 16-bit unit given by its number. -/
inductive Piece where
  | char (c : Char)
  | unit (n : Nat)

/-- What a letter after a backslash stands for. -/
def escaped? : Char → Option Char
  | '"' => some '"'
  | '\\' => some '\\'
  | '/' => some '/'
  | 'b' => some '\x08'
  | 'f' => some '\x0c'
  | 'n' => some '\n'
  | 'r' => some '\r'
  | 't' => some '\t'
  | _ => none

/-- The pieces of a string up to its closing quote, after those in `read`, which are reversed. -/
def pieces? (read : List Piece) : List Char → Option (List Piece × List Char)
  | [] => none
  | '"' :: rest => some (read.reverse, rest)
  | '\\' :: 'u' :: a :: b :: c :: d :: rest =>
    match Text.number? 16 [a, b, c, d] with
    | some n => pieces? (.unit n :: read) rest
    | none => none
  | '\\' :: e :: rest =>
    match escaped? e with
    | some c => pieces? (.char c :: read) rest
    | none => none
  | c :: rest => if c = '\\' ∨ c.toNat < 0x20 then none else pieces? (.char c :: read) rest

def isHighSurrogate (n : Nat) : Bool := 0xD800 ≤ n && n ≤ 0xDBFF

def isLowSurrogate (n : Nat) : Bool := 0xDC00 ≤ n && n ≤ 0xDFFF

/-- Joins surrogate pairs; a surrogate without its partner is refused. `read` holds the characters
before, reversed. -/
def joinPieces? (read : List Char) : List Piece → Option (List Char)
  | [] => some read.reverse
  | .char c :: rest => joinPieces? (c :: read) rest
  | .unit high :: .unit low :: rest =>
    if isHighSurrogate high then
      if isLowSurrogate low then
        joinPieces? (.ofNat (0x10000 + (high - 0xD800) * 0x400 + (low - 0xDC00)) :: read) rest
      else none
    else if isLowSurrogate high then none
    else joinPieces? (.ofNat high :: read) (.unit low :: rest)
  | .unit n :: rest =>
    if isHighSurrogate n ∨ isLowSurrogate n then none else joinPieces? (.ofNat n :: read) rest

/-- A string after its opening quote. -/
def string? (cs : List Char) : Option (String × List Char) := do
  let (pieces, rest) ← pieces? [] cs
  let text ← joinPieces? [] pieces
  return (String.ofList text, rest)

/-! ### Numbers -/

/-- A decimal as far as it was read: `significand * 10 ^ exponent`, where the significand stays
below 2^64 and digits that do not fit are dropped. -/
structure Decimal where
  significand : Nat
  exponent : Int
  deriving DecidableEq, Repr

/-- The significand with one more digit, if it stays below 2^64. -/
def push? (significand digit : Nat) : Option Nat :=
  let next := 10 * significand + digit
  if next < 0x10000000000000000 then some next else none

/-- Reads digits into a significand up to the first that does not fit. -/
def significandFrom (significand : Nat) : List Char → Nat × List Char
  | [] => (significand, [])
  | c :: cs =>
    match (Text.digitValue? 10 c).bind (push? significand) with
    | some next => significandFrom next cs
    | none => (significand, c :: cs)

def powerOfTen (n : Nat) : Float := Float.ofScientific 1 false n

/-- Scales a number by a power of ten, in steps that stay within the doubles; `none` if the result
would be infinite. -/
def scale? (f : Float) (exponent : Int) (fuel : Nat) : Option Float :=
  match fuel with
  | 0 => some f
  | fuel + 1 =>
    if exponent.natAbs ≤ 308 then
      if 0 ≤ exponent then
        let scaled := f * powerOfTen exponent.natAbs
        if scaled.isInf then none else some scaled
      else some (f / powerOfTen exponent.natAbs)
    else if f == 0 then some f
    else if 0 ≤ exponent then none
    else scale? (f / powerOfTen 308) (exponent + 308) fuel

def signed (negative : Bool) (d : Double) : Double := if negative then d.negate else d

/-- Three steps of 308 bring every 64-bit significand to zero, so further ones change nothing. -/
def Decimal.toDouble? (negative : Bool) (d : Decimal) : Option Double :=
  (scale? d.significand.toUInt64.toFloat d.exponent 4).map fun f => signed negative (.ofFloat f)

/-- The number after the letter of an exponent, with its sign. -/
def exponent? (cs : List Char) : Option (Int × List Char) :=
  let (negative, cs) := match cs with
    | '-' :: rest => (true, rest)
    | '+' :: rest => (false, rest)
    | _ => (false, cs)
  let digits := cs.takeWhile Char.isDigit
  if digits.isEmpty then none
  else
    (Text.number? 10 digits).map fun n =>
      ((if negative then -n else n), cs.dropWhile Char.isDigit)

/-- An exponent of 2^31 and more is beyond every significand. -/
def withExponent? (negative : Bool) (d : Decimal) (cs : List Char) :
    Option (Datum × List Char) := do
  let (e, rest) ← exponent? cs
  if e.natAbs < 0x80000000 then
    let double ← Decimal.toDouble? negative { d with exponent := d.exponent + e }
    return (.float double, rest)
  else if 0 ≤ e ∧ d.significand ≠ 0 then none
  else return (.float (signed negative ⟨0⟩), rest)

/-- What may follow the digits of a decimal: an exponent or the end of the number. -/
def endDecimal? (negative : Bool) (d : Decimal) (cs : List Char) : Option (Datum × List Char) :=
  match cs with
  | 'e' :: rest | 'E' :: rest => withExponent? negative d rest
  | _ => do
    let double ← d.toDouble? negative
    return (.float double, cs)

/-- The digits after the point; those that do not fit the significand are dropped. -/
def fraction? (negative : Bool) (d : Decimal) (cs : List Char) : Option (Datum × List Char) :=
  let (significand, rest) := significandFrom d.significand cs
  let count := cs.length - rest.length
  if count = 0 ∧ (rest.takeWhile Char.isDigit).isEmpty then none
  else endDecimal? negative ⟨significand, d.exponent - count⟩ (rest.dropWhile Char.isDigit)

/-- An integer within 64 bits; the negative zero is a double. -/
def integer (negative : Bool) (n : Nat) : Datum :=
  if negative then
    if n = 0 ∨ 0x8000000000000000 < n then .float (.ofFloat (-n.toUInt64.toFloat))
    else .signed (.ofInt (-n))
  else .unsigned n.toUInt64

/-- A number after its sign. Leading zeros are refused. -/
def unsignedNumber? (negative : Bool) (cs : List Char) : Option (Datum × List Char) :=
  let digits := cs.takeWhile Char.isDigit
  let (significand, rest) := significandFrom 0 cs
  let dropped := rest.takeWhile Char.isDigit
  let tail := rest.dropWhile Char.isDigit
  if digits.isEmpty ∨ (digits.head? = some '0' ∧ digits.length ≠ 1) then none
  else match tail with
    | '.' :: tail => fraction? negative ⟨significand, dropped.length⟩ tail
    | 'e' :: _ | 'E' :: _ => endDecimal? negative ⟨significand, dropped.length⟩ tail
    | _ =>
      if dropped.isEmpty then some (integer negative significand, tail)
      else endDecimal? negative ⟨significand, dropped.length⟩ tail

/-! ### Collections -/

/-- Items separated by commas, after the opening bracket and up to the closing one; `fuel` bounds
their number. -/
def items? {α : Type} (item : List Char → Option (α × List Char)) (closing : Char) :
    Nat → List α → List Char → Option (List α × List Char)
  | 0, _, _ => none
  | fuel + 1, read, cs => do
    let (a, rest) ← item cs
    match skipBlanks rest with
    | ',' :: rest => items? item closing fuel (a :: read) (skipBlanks rest)
    | c :: rest => if c = closing then some ((a :: read).reverse, rest) else none
    | [] => none

/-- The items of a collection, of which there may be none. -/
def collection? {α : Type} (item : List Char → Option (α × List Char)) (closing : Char)
    (cs : List Char) : Option (List α × List Char) :=
  let cs := skipBlanks cs
  if cs.head? = some closing then some ([], cs.tail)
  else items? item closing cs.length [] cs

/-- A key with its value. -/
def member? (value : List Char → Option (Datum × List Char)) (cs : List Char) :
    Option ((Datum × Datum) × List Char) := do
  let cs ← expect? ['"'] cs
  let (key, rest) ← string? cs
  let rest ← expect? [':'] (skipBlanks rest)
  let (d, rest) ← value (skipBlanks rest)
  return ((.string key, d), rest)

/-- A value that is no collection. -/
def scalar? (cs : List Char) : Option (Datum × List Char) :=
  match cs with
  | '"' :: rest => (string? rest).map fun (s, rest) => (.string s, rest)
  | 't' :: rest => (expect? ['r', 'u', 'e'] rest).map fun rest => (.bool true, rest)
  | 'f' :: rest => (expect? ['a', 'l', 's', 'e'] rest).map fun rest => (.bool false, rest)
  | 'n' :: rest => (expect? ['u', 'l', 'l'] rest).map fun rest => (.null, rest)
  | '-' :: rest => unsignedNumber? true rest
  | _ => unsignedNumber? false cs

/-- A value in which collections are nested at most `depth` deep. -/
def value? : (depth : Nat) → List Char → Option (Datum × List Char)
  | 0, cs => scalar? cs
  | depth + 1, cs =>
    match cs with
    | '[' :: rest =>
      (collection? (value? depth) ']' rest).map fun (items, rest) => (.sequence items, rest)
    | '\x7b' :: rest =>
      (collection? (member? (value? depth)) '\x7d' rest).map fun (entries, rest) =>
        (.mapping entries, rest)
    | _ => scalar? cs

/-- Reads a whole text in which collections are nested at most `depth` deep. -/
def readNested? (depth : Nat) (text : String) : Option Datum := do
  let (d, rest) ← value? depth (skipBlanks text.toList)
  if (skipBlanks rest).isEmpty then some d else none

def maxDepth : Nat := 127

def read? (text : String) : Option Datum := readNested? maxDepth text

end TelemetryBindings.Json
