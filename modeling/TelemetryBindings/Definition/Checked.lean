import TelemetryBindings.Problem

/-!
# Checked values

Reading a definition goes on after a problem, so that one run reports all of them. A checked value
is a value together with the problems met on the way to it, in the order in which they were met.
-/
namespace TelemetryBindings

structure Checked (α : Type) where
  value : α
  problems : List Problem
  deriving Repr

namespace Checked

variable {α β : Type}

instance : Monad Checked where
  pure a := ⟨a, []⟩
  bind x f := ⟨(f x.value).value, x.problems ++ (f x.value).problems⟩

/-- Records one problem. -/
def report (p : Problem) : Checked Unit := ⟨(), [p]⟩

/-- Gives a value up because of a problem. -/
def reject (p : Problem) : Checked (Option α) := ⟨none, [p]⟩

@[simp] theorem value_pure (a : α) : (pure a : Checked α).value = a := rfl

@[simp] theorem problems_pure (a : α) : (pure a : Checked α).problems = [] := rfl

@[simp] theorem value_bind (x : Checked α) (f : α → Checked β) :
    (x >>= f).value = (f x.value).value := rfl

@[simp] theorem problems_bind (x : Checked α) (f : α → Checked β) :
    (x >>= f).problems = x.problems ++ (f x.value).problems := rfl

@[simp] theorem problems_report (p : Problem) : (report p).problems = [p] := rfl

@[simp] theorem value_reject (p : Problem) : (reject p : Checked (Option α)).value = none := rfl

@[simp] theorem problems_reject (p : Problem) :
    (reject p : Checked (Option α)).problems = [p] := rfl

end Checked

end TelemetryBindings
