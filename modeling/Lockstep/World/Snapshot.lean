import Lockstep.Time.Span
import Lockstep.World.Point

namespace Lockstep

/-- The command to advance the field by one step. -/
structure TickCommand where
  milliseconds : Float

namespace TickCommand

instance : BEq TickCommand := ⟨fun a b => a.milliseconds == b.milliseconds⟩

def ofSpan (s : Span) : TickCommand := ⟨s.seconds * 1000.0⟩

def seconds (t : TickCommand) : Float := t.milliseconds / 1000.0

/-- The step as a span, a negative one as zero. Steps beyond the longest span have none. -/
def span? (t : TickCommand) : Except Span.SecondsError Span :=
  Span.ofSeconds (greater t.milliseconds 0.0 / 1000.0)

end TickCommand

inductive Team where
  | blue
  | yellow
deriving DecidableEq, Repr

def Team.name : Team → String
  | blue => "blue"
  | yellow => "yellow"

/-- A robot as it was observed. Its id is unique within its team. -/
structure Robot where
  id : Nat
  team : Team
  position : Point
  velocity : Point
  orientation : Float

instance : BEq Robot where
  beq a b := a.id == b.id && a.team == b.team && a.position == b.position
    && a.velocity == b.velocity && a.orientation == b.orientation

structure Ball where
  position : Point
  velocity : Point

instance : BEq Ball := ⟨fun a b => a.position == b.position && a.velocity == b.velocity⟩

/-- A ball at rest in the middle of the field. -/
def Ball.resting : Ball := ⟨.origin, .origin⟩

/-- The field at the end of one tick. The producer numbers its snapshots from 1. -/
structure Snapshot where
  tick : Nat
  timestamp : Float
  robots : List Robot
  ball : Ball

namespace Snapshot

instance : BEq Snapshot where
  beq a b := a.tick == b.tick && a.timestamp == b.timestamp && a.robots == b.robots
    && a.ball == b.ball

def empty (tick : Nat) (timestamp : Float) : Snapshot :=
  ⟨tick, timestamp, [], .resting⟩

/-- The first robot with the given team and id. -/
def robot? (w : Snapshot) (team : Team) (id : Nat) : Option Robot :=
  w.robots.find? fun r => r.team == team && r.id == id

def ofTeam (w : Snapshot) (team : Team) : List Robot :=
  w.robots.filter (·.team == team)

end Snapshot

end Lockstep
