import Lockstep.World.Snapshot

namespace Lockstep

/-- A robot as the field knows it: its true state, and the target it drives to at a given speed. -/
structure FieldRobot where
  state : Robot
  target : Option Point := none
  maxSpeed : Float := 0.0

namespace FieldRobot

/-- A robot at rest. -/
def placed (team : Team) (id : Nat) (position : Point) : FieldRobot :=
  { state := { id, team, position, velocity := .origin, orientation := 0.0 } }

/-- Gives the robot a constant velocity and no target. It turns to the direction it moves in. -/
def setVelocity (r : FieldRobot) (velocity : Point) : FieldRobot :=
  let orientation := if velocity.norm > 0.0 then velocity.heading else r.state.orientation
  { r with state := { r.state with velocity, orientation }, target := none }

def driveTo (r : FieldRobot) (target : Point) (speed : Float) : FieldRobot :=
  { r with target := some target, maxSpeed := speed.abs }

/-- Moves on at the velocity that the robot has. -/
def coast (r : FieldRobot) (dt : Float) : FieldRobot :=
  { r with state := { r.state with position := r.state.position + r.state.velocity.scale dt } }

/-- Moves for a time. A robot that can reach its target stops there and forgets it. -/
def step (r : FieldRobot) (dt : Float) : FieldRobot :=
  match r.target with
  | none => r.coast dt
  | some target =>
    let offset := target - r.state.position
    let distance := offset.norm
    if distance ≤ r.maxSpeed * dt then
      { r with state := { r.state with position := target, velocity := .origin }, target := none }
    else
      let direction := offset.shrink distance
      let state := { r.state with
        velocity := direction.scale r.maxSpeed, orientation := direction.heading }
      { r with state }.coast dt

end FieldRobot

/-- Rolls for a time at the velocity of its start, and then loses `friction * dt` of its speed. -/
def Ball.step (b : Ball) (friction dt : Float) : Ball :=
  let position := b.position + b.velocity.scale dt
  let speed := b.velocity.norm
  if speed > 0.0 then
    ⟨position, b.velocity.scale (greater (speed - friction * dt) 0.0 / speed)⟩
  else ⟨position, b.velocity⟩

end Lockstep
