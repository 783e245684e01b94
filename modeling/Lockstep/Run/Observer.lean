import Lockstep.Run.Outcome
import Lockstep.World.Snapshot

namespace Lockstep

/-- What a run knows after it has validated a snapshot. -/
structure Observation where
  elapsed : Span
  world : Snapshot
  eventually : Report
  always : Report

/-- An observer is told of every validated snapshot and of the outcome of a run, and changes nothing but its own
state. -/
structure Observer (ω : Type) where
  onTick : Observation → ω → ω
  onFinish : Outcome → ω → ω

/-- Everything an observer was told, in order. -/
structure Recording where
  ticks : Array Observation := #[]
  finished : Array Outcome := #[]

/-- What a display needs to show one tick. -/
structure Frame where
  elapsed : Float
  world : Snapshot
  eventually : Report
  always : Report

instance : BEq Frame where
  beq a b := a.elapsed == b.elapsed && a.world == b.world && a.eventually == b.eventually
    && a.always == b.always

def Observation.frame (o : Observation) : Frame :=
  ⟨o.elapsed.seconds, o.world, o.eventually, o.always⟩

/-- The frames on their way to a display. Once the display is found gone, none is sent any more. -/
structure FrameFeed where
  frames : Array Frame := #[]
  displayAlive : Bool := true
  connected : Bool := true

namespace Observer

/-- An observer that does nothing. -/
def idle : Observer Unit := ⟨fun _ _ => (), fun _ _ => ()⟩

def recorder : Observer Recording where
  onTick o r := { r with ticks := r.ticks.push o }
  onFinish o r := { r with finished := r.finished.push o }

def forwarder : Observer FrameFeed where
  onTick o f :=
    if !f.connected then f
    else if f.displayAlive then { f with frames := f.frames.push o.frame }
    else { f with connected := false }
  onFinish _ f := f

/-- Two observers that are told the same, the first one first. -/
def pair {α β : Type} (a : Observer α) (b : Observer β) : Observer (α × β) where
  onTick o s := (a.onTick o s.1, b.onTick o s.2)
  onFinish o s := (a.onFinish o s.1, b.onFinish o s.2)

end Observer

end Lockstep
