import TelemetryBindings.Definition.Document

/-!
# The rules of a policy

Validation asks a policy which names are reserved and which types its target lacks. Policies that
answer alike judge categories, names and pings alike, whatever else is different about them.
-/
namespace TelemetryBindings

/-- The policies reserve the same names and lack the same types. -/
structure Policy.SameRules (p q : Policy) : Prop where
  allowReserved : p.options.allowReserved = q.options.allowReserved
  isKeyword : p.isKeyword = q.isKeyword
  unsupported? : p.unsupported? = q.unsupported?

namespace Policy.SameRules

variable {p q : Policy}

theorem reserves (h : p.SameRules q) : p.reserves = q.reserves := by
  funext name
  simp only [Policy.reserves, h.allowReserved, h.isKeyword]

theorem reservesPing (h : p.SameRules q) : p.reservesPing = q.reservesPing := by
  funext name
  simp only [Policy.reservesPing, h.allowReserved, h.isKeyword]

theorem reservesCategory (h : p.SameRules q) : p.reservesCategory = q.reservesCategory := by
  funext key
  simp only [Policy.reservesCategory, h.allowReserved, h.isKeyword]

theorem categoryProblem? (h : p.SameRules q) : p.categoryProblem? = q.categoryProblem? := by
  funext key
  rw [Policy.categoryProblem?, Policy.categoryProblem?, h.reservesCategory]

theorem checkMetricName (h : p.SameRules q) (name : String) :
    Definition.checkMetricName p name = Definition.checkMetricName q name := by
  simp only [Definition.checkMetricName, h.reserves]

theorem checkSupport (h : p.SameRules q) (v : Variant) :
    Definition.checkSupport p v = Definition.checkSupport q v := by
  simp only [Definition.checkSupport, h.unsupported?]

theorem keyedTexts (h : p.SameRules q) (d : Definition) (a : Attribute) (what : Subject)
    (maxLength : Nat) (description : String → Node → Checked (Option String))
    (repeated : String → Problem) :
    d.keyedTexts a p what maxLength description repeated =
      d.keyedTexts a q what maxLength description repeated := by
  have hkey : Definition.addKey p what maxLength description repeated =
      Definition.addKey q what maxLength description repeated := by
    funext m entry
    simp only [Definition.addKey, h.reserves]
  simp only [Definition.keyedTexts, hkey]

theorem metricType (h : p.SameRules q) (d : Definition) (v : Variant) :
    d.metricType p v = d.metricType q v := by
  cases v with
  | event => simp only [Definition.metricType, Definition.extraKeys, h.keyedTexts]
  | _ => rfl

theorem readPing (h : p.SameRules q) (origin name : String) (node : Node) :
    readPing p origin name node = readPing q origin name node := by
  simp only [TelemetryBindings.readPing, Definition.pingOf, Definition.checkPingName,
    Definition.reasons, h.reservesPing, h.checkSupport, h.keyedTexts]

theorem pingFindings (h : p.SameRules q) (origin : String) :
    pingFindings p origin = pingFindings q origin := by
  funext e
  simp only [TelemetryBindings.pingFindings, h.readPing]

end Policy.SameRules

end TelemetryBindings
