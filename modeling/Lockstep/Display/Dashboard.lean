import Lockstep.Display.Signal
import Lockstep.Run.Observer

namespace Lockstep

inductive DashboardLayout where
  | full
  | compact
deriving DecidableEq, Repr

namespace DashboardLayout

def name : DashboardLayout → String
  | full => "full"
  | compact => "compact"

/-- The layout of an id in any case. Only letters of ASCII are folded: no other letter has one of
those in the ids as its lower case form. -/
def ofId? (id : String) : Option DashboardLayout :=
  let folded := String.ofList (id.toList.map Char.toLower)
  if folded == "full" || folded == "default" then some full
  else if folded == "compact" then some compact
  else none

/-- The layout of an id if it is given and known, and else the full one. -/
def ofId (id : Option String) : DashboardLayout :=
  (id.bind ofId?).getD full

end DashboardLayout

/-- The overall state that the dashboard names. -/
inductive DashboardState where
  | waiting
  | alwaysViolated
  | eventuallyMet
  | running
deriving DecidableEq, Repr

def DashboardState.name : DashboardState → String
  | waiting => "WAITING"
  | alwaysViolated => "ALWAYS VIOLATED"
  | eventuallyMet => "EVENTUALLY MET"
  | running => "RUNNING"

/-- The dashboard of a running test: the last frame that it has taken, and for each of the last hundred frames
how many sequences of the eventually set had not passed. -/
structure Dashboard where
  layout : DashboardLayout := .full
  signal : CloseSignal := {}
  latest : Option Frame := none
  /-- The counts of sequences that had not passed, the oldest first. -/
  history : List Nat := []

namespace Dashboard

def historySize : Nat := 100

/-- Appends a count and drops the oldest one when there are too many. -/
def remember (history : List Nat) (unmet : Nat) : List Nat :=
  let history := history ++ [unmet]
  if historySize < history.length then history.tail else history

/-- Takes one frame. -/
def take (d : Dashboard) (f : Frame) : Dashboard :=
  let unmet := f.eventually.count .pending + f.eventually.count .failed
  { d with history := remember d.history unmet, latest := some f }

/-- Takes all frames that have arrived, in order. -/
def drain (d : Dashboard) (frames : List Frame) : Dashboard :=
  frames.foldl take d

def state (d : Dashboard) : DashboardState :=
  match d.latest with
  | none => .waiting
  | some f =>
    if 0 < f.always.count .failed then .alwaysViolated
    else if f.eventually.sequences.all (·.status == .passed) then .eventuallyMet
    else .running

end Dashboard

end Lockstep
