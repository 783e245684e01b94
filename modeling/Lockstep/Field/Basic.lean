import Lockstep.Field.Motion
import Lockstep.Random.Normal

/-!
The simulated field: robots in the order of their teams and ids, a ball, the time, and sensor noise on
the reported positions of the robots. Noise is drawn from the field's own keystream, for each robot in
order, first for x and then for y. The same seed and operations always give the same snapshots.
-/

namespace Lockstep

/-- What distinguishes the robots of a field. Blue comes before yellow, then the smaller id. -/
structure RobotKey where
  team : Team
  id : Nat
deriving DecidableEq

def RobotKey.before (a b : RobotKey) : Bool :=
  match a.team, b.team with
  | .blue, .yellow => true
  | .yellow, .blue => false
  | _, _ => a.id < b.id

def FieldRobot.key (r : FieldRobot) : RobotKey := ⟨r.state.team, r.state.id⟩

structure Field where
  seed : UInt64
  noiseStream : Keystream
  robots : List FieldRobot := []
  ball : Ball := .resting
  time : Float := 0.0
  noise : Option Float := none
  friction : Float := 0.3

namespace Field

/-- An empty field. -/
def ofSeed (seed : UInt64) : Field :=
  { seed, noiseStream := .ofSeed seed }

/-- Sets the deviation of the sensor noise. Only a positive finite one makes noise. -/
def withNoise (f : Field) (deviation : Float) : Field :=
  { f with noise := if deviation > 0.0 && deviation.isFinite then some deviation else none }

/-- Sets the deceleration of the ball, a negative one as zero. -/
def withFriction (f : Field) (friction : Float) : Field :=
  { f with friction := greater friction 0.0 }

/-- Puts a robot in its place in the order, where it replaces a robot with its key. -/
def insertRobot (r : FieldRobot) : List FieldRobot → List FieldRobot
  | [] => [r]
  | s :: rest =>
    if r.key = s.key then r :: rest
    else if r.key.before s.key then r :: s :: rest
    else s :: insertRobot r rest

def spawn (f : Field) (key : RobotKey) (position : Point) : Field :=
  { f with robots := insertRobot (.placed key.team key.id position) f.robots }

def find? (f : Field) (key : RobotKey) : Option FieldRobot :=
  f.robots.find? (·.key = key)

def change (f : Field) (key : RobotKey) (g : FieldRobot → FieldRobot) : Field :=
  { f with robots := f.robots.map fun r => if r.key = key then g r else r }

/-- The true position of a robot. -/
def position? (f : Field) (key : RobotKey) : Option Point :=
  (f.find? key).map (·.state.position)

def setBall (f : Field) (position velocity : Point) : Field :=
  { f with ball := ⟨position, velocity⟩ }

/-- Advances everything on the field by `dt` seconds. -/
def step (f : Field) (dt : Float) : Field :=
  { f with
    time := f.time + dt
    robots := f.robots.map (·.step dt)
    ball := f.ball.step f.friction dt }

/-- The robots as the sensors report them, and the keystream after the draws. -/
def observe (noise : Option Float) : Keystream → List FieldRobot → List Robot × Keystream
  | k, [] => ([], k)
  | k, r :: rest =>
    match noise with
    | none =>
      let (robots, k) := observe noise k rest
      (r.state :: robots, k)
    | some deviation =>
      let (dx, k) := Normal.sample deviation k
      let (dy, k) := Normal.sample deviation k
      let position : Point := ⟨r.state.position.x + dx, r.state.position.y + dy⟩
      let (robots, k) := observe noise k rest
      ({ r.state with position } :: robots, k)

/-- The observable state under the given tick number. -/
def snapshot (f : Field) (tick : Nat) : Snapshot × Field :=
  let (robots, noiseStream) := observe f.noise f.noiseStream f.robots
  (⟨tick, f.time, robots, f.ball⟩, { f with noiseStream })

/-- What can be done with a field. -/
inductive Operation where
  | spawn (key : RobotKey) (position : Point)
  | velocity (key : RobotKey) (velocity : Point)
  | move (key : RobotKey) (target : Point) (speed : Float)
  | ball (position velocity : Point)
  | step (dt : Float) (times : Nat)
  | snapshot (tick : Nat)
  | position (key : RobotKey)
  | time
  | seed

/-- What an operation answers. -/
inductive Reply where
  | nothing
  | known (found : Bool)
  | seconds (time : Float)
  | world (snapshot : Snapshot)
  | place (position : Option Point)
  | number (n : UInt64)

/-- Advances by `dt` seconds as often as given. -/
def stepTimes (dt : Float) : Nat → Field → Field
  | 0, f => f
  | n + 1, f => stepTimes dt n (f.step dt)

/-- Carries out an operation. One on a robot that is not there changes nothing. -/
def Operation.perform (f : Field) : Operation → Reply × Field
  | spawn key place => (.nothing, f.spawn key place)
  | velocity key v => (.known (f.find? key).isSome, f.change key (·.setVelocity v))
  | move key target speed => (.known (f.find? key).isSome, f.change key (·.driveTo target speed))
  | ball place v => (.nothing, f.setBall place v)
  | step dt times =>
    let f := stepTimes dt times f
    (.seconds f.time, f)
  | snapshot tick =>
    let (world, f) := f.snapshot tick
    (.world world, f)
  | position key => (.place (f.position? key), f)
  | time => (.seconds f.time, f)
  | seed => (.number f.seed, f)

/-- The replies to a script of operations, and the field after it. -/
def perform (f : Field) : List Operation → List Reply × Field
  | [] => ([], f)
  | op :: rest =>
    let (reply, f) := op.perform f
    let (replies, f) := f.perform rest
    (reply :: replies, f)

end Field

end Lockstep
