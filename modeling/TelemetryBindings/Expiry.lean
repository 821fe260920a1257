import TelemetryBindings.Document.Node
import TelemetryBindings.Options

/-!
# Expiry

When a metric stops collecting. Only exact spellings are read: the words `never` and `expired`, a
calendar date written `YYYY-MM-DD`, or a major version below 2^32 written as an integer.
-/
namespace TelemetryBindings

inductive Expiry where
  | never
  | expired
  | date (day : Date)
  /-- Expires once the product reaches this major version. -/
  | version (major : Nat)
  deriving DecidableEq, Repr

namespace Expiry

def parse? : Node → Option Expiry
  | .string s =>
    if s = "never" then some .never
    else if s = "expired" then some .expired
    else (Date.parseStrict? s).map .date
  | .integer i => if 0 ≤ i ∧ i < 0x100000000 then some (.version i.toNat) else none
  | _ => none

def text : Expiry → String
  | .never => "never"
  | .expired => "expired"
  | .date day => day.text
  | .version major => toString major

/-- The metric has expired under the given settings; a missing setting expires nothing. -/
def isExpired (options : Options) : Expiry → Bool
  | .never => false
  | .expired => true
  | .date day => options.expirationDate.any fun cutoff => day.before cutoff
  | .version major => options.expireByVersion.any fun current => major ≤ current

end Expiry

end TelemetryBindings
