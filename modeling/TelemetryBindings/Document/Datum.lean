/-!
# Data as a text format delivers them

A `Datum` is what a reader of a text format hands over before it is known what the data mean:
signed and unsigned numbers are still apart, a value may be absent, and a mapping may have keys of
any shape and may repeat them.
-/
namespace TelemetryBindings

/-- A binary64 number, given by its bits so that it can be compared and shown exactly. -/
structure Double where
  bits : UInt64
  deriving DecidableEq, Repr

namespace Double

def ofFloat (x : Float) : Double := ⟨x.toBits⟩

def isNaN (d : Double) : Bool :=
  d.bits &&& 0x7FF0000000000000 == 0x7FF0000000000000 && d.bits &&& 0x000FFFFFFFFFFFFF != 0

/-- The number is neither infinite nor NaN. -/
def isFinite (d : Double) : Bool :=
  d.bits &&& 0x7FF0000000000000 != 0x7FF0000000000000

def negate (d : Double) : Double := ⟨d.bits ^^^ 0x8000000000000000⟩

/-- The double nearest to `digits * 10 ^ exponent`. Decimals beyond the range of doubles become
infinity or zero before any large power is computed. -/
def ofDecimal (digits : Nat) (exponent : Int) : Double :=
  let magnitude := (Nat.toDigits 10 digits).length + exponent
  if digits = 0 then ⟨0⟩
  else if 400 < magnitude then ⟨0x7FF0000000000000⟩
  else if magnitude < -400 then ⟨0⟩
  else ofFloat (Float.ofScientific digits (exponent < 0) exponent.natAbs)

def infinity : Double := ⟨0x7FF0000000000000⟩

def nan : Double := ⟨0x7FF8000000000000⟩

end Double

inductive Datum where
  | null
  | absent
  | present (value : Datum)
  | bool (value : Bool)
  | signed (value : Int64)
  | unsigned (value : UInt64)
  | float (value : Double)
  | string (value : String)
  | sequence (items : List Datum)
  | mapping (entries : List (Datum × Datum))
  deriving Repr

end TelemetryBindings
