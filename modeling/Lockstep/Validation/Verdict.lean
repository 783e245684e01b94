namespace Lockstep

inductive Status where
  | pending
  | passed
  | failed
deriving DecidableEq, Repr

def Status.name : Status → String
  | pending => "pending"
  | passed => "passed"
  | failed => "failed"

/-- What a predicate says of one snapshot. -/
structure Verdict where
  status : Status
  detail : Option String := none
deriving DecidableEq

namespace Verdict

def pending : Verdict := ⟨.pending, none⟩

def passed : Verdict := ⟨.passed, none⟩

def failed (detail : String) : Verdict := ⟨.failed, some detail⟩

def withDetail (v : Verdict) (detail : String) : Verdict := { v with detail := some detail }

end Verdict

/-- How a computation breaks off: with a text, or with a payload that is none. -/
inductive Panic where
  | text (message : String)
  | other
deriving DecidableEq

def Panic.message : Panic → String
  | text message => message
  | other => "non-string panic payload"

end Lockstep
