import Lockstep.Validation.Sequence

namespace Lockstep

/-- How a run evaluates its sets and checks the reports, so that another way of judging can take the place of the
standard one. -/
structure Engine where
  evaluate : SequenceSet → Snapshot → Except Panic (Report × SequenceSet)
  check : Rule → Report → Except Failure Unit

namespace Engine

/-- Asks each sequence of the set and applies the rules to the report. -/
def standard : Engine :=
  ⟨SequenceSet.evaluate, fun rule report => report.check rule⟩

/-- The standard engine, but from the given tick on every always check fails and names no
sequence. -/
def rejectingFrom (tick : Nat) : Engine :=
  { standard with
    check := fun rule report =>
      if rule = .always ∧ tick ≤ report.tick then .error ⟨.always, report.tick, []⟩
      else report.check rule }

end Engine

end Lockstep
