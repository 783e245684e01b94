import Lockstep.Validation.Predicate

namespace Lockstep

/-- What to say from one tick to another, both included. -/
structure ScriptRule where
  first : Nat
  last : Nat
  answer : Except Panic Verdict

/-- Whether the rule speaks of a tick. -/
def ScriptRule.covers (r : ScriptRule) (tick : Nat) : Bool := r.first ≤ tick && tick ≤ r.last

/-- A predicate that goes by the tick number alone. The first rule that covers it decides, and without such a rule
the predicate is pending. -/
def Predicate.scripted (name : String) (rules : List ScriptRule) : Predicate :=
  ⟨.ok name, fun w => ((rules.find? (·.covers w.tick)).map ScriptRule.answer).getD (.ok .pending)⟩

end Lockstep
