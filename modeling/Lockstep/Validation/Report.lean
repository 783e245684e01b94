import Lockstep.Validation.Verdict

namespace Lockstep

/-- The state of one sequence after a snapshot. The predicate is the active one, `none` once the
sequence has passed. -/
structure SequenceReport where
  sequence : String
  status : Status
  predicate : Option String
  completed : Nat
  total : Nat
  detail : Option String
deriving DecidableEq

def SequenceReport.text (r : SequenceReport) : String :=
  let active := match r.predicate with
    | some predicate => s!" at '{predicate}' ({r.completed + 1}/{r.total})"
    | none => ""
  let detail := match r.detail with
    | some detail => s!": {detail}"
    | none => ""
  s!"'{r.sequence}' {r.status.name}{active}{detail}"

/-- The text of a report, unless it breaks off: the position of the active predicate is counted in a 64 bit
word, and has to fit. -/
def SequenceReport.text? (r : SequenceReport) : Option String :=
  if r.predicate.isNone || r.completed + 1 < UInt64.size then some r.text else none

/-- An always set may hold no failed sequence; an eventually set must in the end hold only passed ones. -/
inductive Rule where
  | always
  | eventually
deriving DecidableEq, Repr

namespace Rule

def name : Rule → String
  | always => "always"
  | eventually => "eventually"

/-- Whether a sequence of this status breaks the rule. -/
def broken : Rule → Status → Bool
  | always, s => s == .failed
  | eventually, s => s != .passed

end Rule

/-- Why a report does not satisfy a rule: the sequences that break it, in the order of the report. -/
structure Failure where
  rule : Rule
  tick : Nat
  sequences : List SequenceReport
deriving DecidableEq

def Failure.text (f : Failure) : String :=
  let head := s!"{f.rule.name} validation failed at tick {f.tick}"
  if f.sequences.isEmpty then head
  else head ++ ": " ++ String.intercalate "; " (f.sequences.map SequenceReport.text)

/-- The text of a failure, unless that of a report in it breaks off. -/
def Failure.text? (f : Failure) : Option String :=
  if f.sequences.all (·.text?.isSome) then some f.text else none

/-- The reports of all sequences of a set on the snapshot with the given tick number. -/
structure Report where
  tick : Nat := 0
  sequences : List SequenceReport := []
deriving DecidableEq

namespace Report

def offending (r : Report) (rule : Rule) : List SequenceReport :=
  r.sequences.filter (rule.broken ·.status)

def check (r : Report) (rule : Rule) : Except Failure Unit :=
  if (r.offending rule).isEmpty then .ok () else .error ⟨rule, r.tick, r.offending rule⟩

def count (r : Report) (status : Status) : Nat :=
  r.sequences.countP (·.status == status)

/-- The status of the first sequence with the given name. -/
def status? (r : Report) (sequence : String) : Option Status :=
  (r.sequences.find? (·.sequence == sequence)).map (·.status)

theorem offending_eq_nil_iff {r : Report} {rule : Rule} :
    r.offending rule = [] ↔ ∀ s ∈ r.sequences, rule.broken s.status = false := by
  simp [offending, List.filter_eq_nil_iff]

theorem check_eq_ok_iff {r : Report} {rule : Rule} :
    r.check rule = .ok () ↔ ∀ s ∈ r.sequences, rule.broken s.status = false := by
  rw [← offending_eq_nil_iff]
  cases h : r.offending rule <;> simp [check, h]

theorem check_eq_error_iff {r : Report} {rule : Rule} {f : Failure} :
    r.check rule = .error f ↔ r.offending rule ≠ [] ∧ f = ⟨rule, r.tick, r.offending rule⟩ := by
  cases h : r.offending rule <;> simp [check, h, eq_comm]

end Report

end Lockstep
