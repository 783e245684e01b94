import Lockstep.Time.Timing
import Lockstep.Validation.Report

namespace Lockstep

/-- What can go wrong between the orchestrator, the field and a display. -/
inductive LinkError where
  | closed (message : String)
  | outOfOrder (expected received : Nat)
  | display (message : String)
deriving DecidableEq

namespace LinkError

def text : LinkError → String
  | closed message => s!"Channel closed: {message}"
  | outOfOrder expected received =>
    s!"Out-of-order world snapshot: expected tick {expected}, received tick {received}"
  | display message => s!"Display error: {message}"

/-- A tick was published and nobody is there to receive it. -/
def noTickReceiver : LinkError := closed "tick receiver dropped"

/-- A snapshot was sent and nobody is there to take it. -/
def noWorldSource : LinkError := closed "world source dropped"

/-- A snapshot was asked for and nobody is left to send one. -/
def noWorldProducer : LinkError := closed "world producer disconnected"

end LinkError

/-- Why a run ended without a verdict. -/
inductive RunError where
  | configuration (message : String)
  | transport (error : LinkError)
  | panicked (message : String)
  | spawn (message : String)
deriving DecidableEq

namespace RunError

def text : RunError → String
  | configuration message => s!"Configuration error: {message}"
  | transport error => s!"Transport failure: {error.text}"
  | panicked message => s!"Orchestrator panicked: {message}"
  | spawn message => s!"Failed to spawn thread: {message}"

def ofTiming (e : TimingError) : RunError := configuration e.message

def ofPanic (p : Panic) : RunError := panicked p.message

end RunError

/-- A run passes, fails by one of the two rules, or is broken off by an error. -/
inductive Outcome where
  | passed
  | failedAlways (failure : Failure)
  | failedEventually (failure : Failure)
  | failedException (error : RunError)
deriving DecidableEq

inductive OutcomeKind where
  | passed
  | failedAlways
  | failedEventually
  | failedException
deriving DecidableEq, Repr

def OutcomeKind.name : OutcomeKind → String
  | passed => "passed"
  | failedAlways => "failed_always"
  | failedEventually => "failed_eventually_timeout"
  | failedException => "failed_exception"

namespace Outcome

def kind : Outcome → OutcomeKind
  | passed => .passed
  | failedAlways _ => .failedAlways
  | failedEventually _ => .failedEventually
  | failedException _ => .failedException

def isPassed (o : Outcome) : Bool := o.kind == .passed

/-- The sequences that decided a failed run. -/
def failure? : Outcome → Option Failure
  | failedAlways failure => some failure
  | failedEventually failure => some failure
  | _ => none

def error? : Outcome → Option RunError
  | failedException error => some error
  | _ => none

/-- The error of the link that broke a run off. -/
def linkError? : Outcome → Option LinkError
  | failedException (.transport error) => some error
  | _ => none

/-- Why the run did not pass. -/
def reason? : Outcome → Option String
  | passed => none
  | failedAlways failure => some failure.text
  | failedEventually failure => some failure.text
  | failedException error => some error.text

def text : Outcome → String
  | passed => "passed"
  | failedAlways failure => s!"failed (always): {failure.text}"
  | failedEventually failure => s!"failed (eventually timeout): {failure.text}"
  | failedException error => s!"failed (exception): {error.text}"

/-- The text of an outcome, unless that of the failure that decided it breaks off. -/
def text? (o : Outcome) : Option String :=
  if o.failure?.all (·.text?.isSome) then some o.text else none

end Outcome

end Lockstep
