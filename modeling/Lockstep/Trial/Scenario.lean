import Lockstep.Random.Uniform
import Lockstep.Trial.Basic

namespace Lockstep

/-- The built-in scenarios. The seed shifts starting positions and drives sensor noise, and neither changes the
outcome that a run with the default timing must have. -/
inductive Scenario where
  | robotReachesCenter
  | ballIntoGoal
  | robotLeavesField
  | unreachableTarget
  | transportDrop
deriving DecidableEq, Repr

namespace Scenario

def all : List Scenario :=
  [robotReachesCenter, ballIntoGoal, robotLeavesField, unreachableTarget, transportDrop]

def name : Scenario → String
  | robotReachesCenter => "robot_reaches_center"
  | ballIntoGoal => "ball_into_goal"
  | robotLeavesField => "robot_leaves_field"
  | unreachableTarget => "unreachable_target"
  | transportDrop => "transport_drop"

def description : Scenario → String
  | robotReachesCenter => "Blue robot drives to the centre circle while staying on the field"
  | ballIntoGoal => "Ball rolls into the attacking half, then into the goal"
  | robotLeavesField => "Blue robot drives over the goal line; always check fails"
  | unreachableTarget => "Blue robot stops 1m short of the centre circle; timeout"
  | transportDrop => "Field server closes the world channel after 30 ticks"

/-- The outcome of a run with the default timing. -/
def expected : Scenario → OutcomeKind
  | robotReachesCenter => .passed
  | ballIntoGoal => .passed
  | robotLeavesField => .failedAlways
  | unreachableTarget => .failedEventually
  | transportDrop => .failedException

/-- The names by which a scenario is known besides its own. -/
def aliases : Scenario → List String
  | robotReachesCenter => ["reaches_center", "ft-001"]
  | ballIntoGoal => ["goal", "ft-002"]
  | robotLeavesField => ["leaves_field", "ft-003"]
  | unreachableTarget => ["unreachable", "ft-004"]
  | transportDrop => ["drop", "ft-005"]

/-- The scenario of a name in any case. Only letters of ASCII are folded: no other letter has one of
those in the names as its lower case form. -/
def ofName? (s : String) : Option Scenario :=
  let folded := String.ofList (s.toList.map Char.toLower)
  all.find? fun c => c.name == folded || c.aliases.contains folded

/-- What is said of a name that no scenario has. -/
def unknown (s : String) : String := s!"Unknown scenario: {s}"

def position (s : Scenario) : Nat := all.idxOf s

/-- The set that keeps one robot on the field. -/
def staysOnField (key : RobotKey) : SequenceSet :=
  ⟨[.fresh s!"{key.team.name}_{key.id}_stays_on_field" [.robotStays key.team key.id .field]]⟩

/-- The set that wants the first blue robot in the centre circle. -/
def reachesCenter : SequenceSet :=
  ⟨[.fresh "blue_0_reaches_center" [.robotEnters .blue 0 .centreCircle]]⟩

/-- A shift of up to `range` in either direction. -/
def jitter (range : Float) (k : Keystream) : Float × Keystream :=
  Uniform.between (-range) range k

def build (s : Scenario) (seed : UInt64) : Setup :=
  let k := Keystream.ofSeed seed
  let field := Field.ofSeed seed
  match s with
  | robotReachesCenter =>
    let robot : RobotKey := ⟨.blue, 0⟩
    let (dx, k) := jitter 0.2 k
    let (dy, _) := jitter 0.2 k
    let field := (field.withNoise 0.01).spawn robot ⟨-2.0 + dx, dy⟩
    { field := field.change robot (·.driveTo .origin 1.5)
      always := staysOnField robot, eventually := reachesCenter }
  | ballIntoGoal =>
    let robot : RobotKey := ⟨.yellow, 0⟩
    let (dy, k) := jitter 0.5 k
    let (y, _) := jitter 0.05 k
    let attackingHalf := Region.spanning ⟨0.0, -3.0⟩ ⟨4.5, 3.0⟩
    { field := (field.spawn robot ⟨3.5, dy⟩).setBall ⟨-1.0, y⟩ ⟨3.0, 0.0⟩
      always := staysOnField robot
      eventually := ⟨[.fresh "ball_into_goal" [.ballEnters attackingHalf, .ballEnters .goal]]⟩ }
  | robotLeavesField =>
    let robot : RobotKey := ⟨.blue, 1⟩
    let (dy, _) := jitter 1.0 k
    { field := (field.spawn robot ⟨3.5, dy⟩).change robot (·.setVelocity ⟨1.5, 0.0⟩)
      always := staysOnField robot }
  | unreachableTarget =>
    let robot : RobotKey := ⟨.blue, 0⟩
    let (dy, _) := jitter 0.1 k
    let field := (field.withNoise 0.01).spawn robot ⟨-3.0, dy⟩
    -- the robot stops at x = -1.0, and the circle begins at -0.5
    { field := field.change robot (·.driveTo ⟨-1.0, 0.0⟩ 2.0)
      always := staysOnField robot, eventually := reachesCenter }
  | transportDrop =>
    let robot : RobotKey := ⟨.blue, 0⟩
    let (x, k) := jitter 1.0 k
    let (y, _) := jitter 1.0 k
    { field := field.spawn robot ⟨x, y⟩, faults := ⟨some 30⟩, always := staysOnField robot }

end Scenario

end Lockstep
