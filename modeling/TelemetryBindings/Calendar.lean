import TelemetryBindings.Text.CharClass
import TelemetryBindings.Text.Digits

/-!
# Calendar dates

Days of the proleptic Gregorian calendar. `Date.parseStrict?` reads exactly `YYYY-MM-DD`;
`Date.parse?` is the reader for settings, which also takes signs, blanks and short fields.
-/
namespace TelemetryBindings

def isLeapYear (year : Int) : Bool :=
  year % 4 == 0 && (year % 100 != 0 || year % 400 == 0)

def daysInMonth (year : Int) : Nat → Nat
  | 1 | 3 | 5 | 7 | 8 | 10 | 12 => 31
  | 4 | 6 | 9 | 11 => 30
  | 2 => if isLeapYear year then 29 else 28
  | _ => 0

/-- The day exists, in a year that the calendar covers. -/
def isDay (year : Int) (month day : Nat) : Bool :=
  -262143 ≤ year && year ≤ 262142 && 1 ≤ day && day ≤ daysInMonth year month

structure Date where
  year : Int
  month : Nat
  day : Nat
  exists_day : isDay year month day = true
  deriving DecidableEq, Repr

namespace Date

def ofParts? (year : Int) (month day : Nat) : Option Date :=
  if h : isDay year month day = true then some ⟨year, month, day, h⟩ else none

/-- The first date is an earlier day than the second. -/
def before (a b : Date) : Bool :=
  a.year < b.year ||
    (a.year == b.year && (a.month < b.month || (a.month == b.month && a.day < b.day)))

/-- The decimal digits of `n`, filled up with zeros in front. -/
def padded (width n : Nat) : String :=
  let digits := Nat.toDigits 10 n
  String.ofList (List.replicate (width - digits.length) '0' ++ digits)

/-- Years of more or fewer than four digits carry a sign. -/
def yearText (year : Int) : String :=
  if 0 ≤ year ∧ year ≤ 9999 then padded 4 year.toNat
  else if 0 ≤ year then "+" ++ padded 4 year.toNat
  else "-" ++ padded 4 year.natAbs

def text (d : Date) : String :=
  yearText d.year ++ "-" ++ padded 2 d.month ++ "-" ++ padded 2 d.day

/-- The number that a list of decimal digits denotes; `none` if one of them is no digit. -/
def number? (digits : List Char) : Option Nat := Text.number? 10 digits

/-- Exactly ten characters: four digits, two digits and two digits, joined by dashes. -/
def parseStrict? (s : String) : Option Date :=
  match s.toList with
  | [y₁, y₂, y₃, y₄, '-', m₁, m₂, '-', d₁, d₂] => do
    let year ← number? [y₁, y₂, y₃, y₄]
    let month ← number? [m₁, m₂]
    let day ← number? [d₁, d₂]
    ofParts? year month day
  | _ => none

def skipBlanks (cs : List Char) : List Char := cs.dropWhile Text.isBlank

/-- One to `limit` digits (any number of them without a limit) and what follows. -/
def takeNumber? (limit : Option Nat) (cs : List Char) : Option (Nat × List Char) :=
  let run := cs.takeWhile Char.isDigit
  let digits := match limit with
    | some n => run.take n
    | none => run
  if digits.isEmpty then none
  else (number? digits).map fun n => (n, cs.drop digits.length)

/-- A year has one to four digits, or a sign and any number of digits. -/
def takeYear? (cs : List Char) : Option (Int × List Char) :=
  match cs with
  | '-' :: rest => (takeNumber? none rest).map fun (n, tail) => (-n, tail)
  | '+' :: rest => (takeNumber? none rest).map fun (n, tail) => (n, tail)
  | _ => (takeNumber? (some 4) cs).map fun (n, tail) => (n, tail)

def takeDash? (cs : List Char) : Option (List Char) :=
  match skipBlanks cs with
  | '-' :: rest => some (skipBlanks rest)
  | _ => none

/-- Year, month and day joined by dashes, with blanks allowed before and after every part; month
and day may have one digit. -/
def parse? (s : String) : Option Date := do
  let (year, rest) ← takeYear? (skipBlanks s.toList)
  let rest ← takeDash? rest
  let (month, rest) ← takeNumber? (some 2) rest
  let rest ← takeDash? rest
  let (day, rest) ← takeNumber? (some 2) rest
  if (skipBlanks rest).isEmpty then ofParts? year month day else none

end Date

end TelemetryBindings
