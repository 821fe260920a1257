import TelemetryBindings.Text.CharTable

/-!
# Character classes and case mappings

Alphanumeric, lower-case, upper-case and blank characters over all of Unicode, and the full case
mappings, under which one character may become several. Below U+0080 every function is the ASCII
one, so that texts in the ASCII range can be reasoned about without the tables.
-/
namespace TelemetryBindings.Text

def inRanges (ranges : List (Nat × Nat)) (n : Nat) : Bool :=
  ranges.any fun r => r.1 ≤ n && n ≤ r.2

def isAlphanumeric (c : Char) : Bool :=
  if c.toNat < 0x80 then c.isAlphanum else inRanges alphanumericCodes c.toNat

def isLowercase (c : Char) : Bool :=
  if c.toNat < 0x80 then c.isLower else lowercaseCodes.any (·.contains c.toNat)

def isUppercase (c : Char) : Bool :=
  if c.toNat < 0x80 then c.isUpper else uppercaseCodes.any (·.contains c.toNat)

/-- White space in the sense of Unicode: the ASCII blanks from tab to carriage return, the space,
and the blanks beyond ASCII. -/
def isBlank (c : Char) : Bool :=
  if c.toNat < 0x80 then c = ' ' || (9 ≤ c.toNat && c.toNat ≤ 13)
  else inRanges blankCodes c.toNat

/-- The mapped characters of `c`: a listed expansion first, then a listed shift, else `c` itself. -/
def mapCase (expansions : List (Nat × List Nat)) (shifts : List CaseShift) (c : Char) : List Char :=
  match expansions.lookup c.toNat with
  | some codes => codes.map Char.ofNat
  | none =>
    match shifts.find? (·.codes.contains c.toNat) with
    | some shift => [Char.ofNat (c.toNat + shift.distance).toNat]
    | none => [c]

def lowerChars (c : Char) : List Char :=
  if c.toNat < 0x80 then [c.toLower] else mapCase lowerExpansions lowerShifts c

def upperChars (c : Char) : List Char :=
  if c.toNat < 0x80 then [c.toUpper] else mapCase upperExpansions upperShifts c

theorem isAlphanumeric_of_ascii {c : Char} (h : c.toNat < 0x80) :
    isAlphanumeric c = c.isAlphanum := by simp [isAlphanumeric, h]

theorem isLowercase_of_ascii {c : Char} (h : c.toNat < 0x80) : isLowercase c = c.isLower := by
  simp [isLowercase, h]

theorem isUppercase_of_ascii {c : Char} (h : c.toNat < 0x80) : isUppercase c = c.isUpper := by
  simp [isUppercase, h]

theorem lowerChars_of_ascii {c : Char} (h : c.toNat < 0x80) : lowerChars c = [c.toLower] := by
  simp [lowerChars, h]

theorem upperChars_of_ascii {c : Char} (h : c.toNat < 0x80) : upperChars c = [c.toUpper] := by
  simp [upperChars, h]

end TelemetryBindings.Text
