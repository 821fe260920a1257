import TelemetryBindings.Definition.Metric

/-!
# Reading pings

`readPing` reads one ping definition. It gives a ping exactly when it records no problem.
-/
namespace TelemetryBindings

namespace Definition

def checkPingName (p : Policy) (name : String) : Checked Unit :=
  if ¬Identifier.isPingName name then .report (.invalidIdentifier .pingName name)
  else if p.reservesPing name then .report (.reservedIdentifier .pingName name)
  else pure ()

def pingOf (d : Definition) (p : Policy) (origin name : String) : Checked (Option Ping) := do
  checkSchema .ping d
  checkPingName p name
  checkSupport p .ping
  let description ← d.string .description
  let includeClientId ← d.bool .includeClientId
  let sendIfEmpty ← d.boolOr .sendIfEmpty false
  let bugs ← d.bugs
  let dataReviews ← d.stringList .dataReviews
  let notificationEmails ← d.nonEmptyStringList .notificationEmails
  let reasons ← d.reasons p
  return do
    let description ← description
    let includeClientId ← includeClientId
    some {
      name, description, includeClientId, sendIfEmpty, bugs, dataReviews, notificationEmails,
      reasons, origin }

end Definition

/-- Reads one ping definition. -/
def readPing (p : Policy) (origin name : String) (node : Node) : Checked (Option Ping) :=
  match node with
  | .mapping d => Checked.clean (Definition.pingOf d p origin name)
  | _ => .reject (.wrongType name .mapping node.kind)

end TelemetryBindings
