import Lockstep.Validation.Verdict
import Lockstep.World.Region
import Lockstep.World.Snapshot

namespace Lockstep

/-- A predicate over snapshots. It depends on nothing but the snapshot, so the same snapshot always gets the
same verdict. One that must hold all the time is pending while it holds and fails once it does not; passing
would let its sequence move on. It may break off, when it judges a snapshot and when it is asked for its name. -/
structure Predicate where
  name : Except Panic String
  judge : Snapshot → Except Panic Verdict

namespace Predicate

/-- The verdict on a snapshot, and the name that it is reported with. -/
def answer (p : Predicate) (w : Snapshot) : Except Panic (Verdict × String) :=
  match p.judge w with
  | .error panic => .error panic
  | .ok verdict => p.name.map fun name => (verdict, name)

/-- A predicate that never breaks off. -/
def total (name : String) (judge : Snapshot → Verdict) : Predicate :=
  ⟨.ok name, fun w => .ok (judge w)⟩

def robotEntersName (team : Team) (id : Nat) (region : Region) : String :=
  s!"{team.name} robot {id} enters {region.text}"

def ballEntersName (region : Region) : String :=
  s!"ball enters {region.text}"

def robotStaysName (team : Team) (id : Nat) (region : Region) : String :=
  s!"{team.name} robot {id} stays in {region.text}"

/-- Passes once the robot is in the region. -/
def robotEnters (team : Team) (id : Nat) (region : Region) : Predicate :=
  total (robotEntersName team id region) fun w =>
    match w.robot? team id with
    | none => Verdict.pending.withDetail "robot not on field"
    | some robot =>
      if region.contains robot.position then .passed
      else Verdict.pending.withDetail s!"robot at {Region.pointText robot.position}"

/-- Passes once the ball is in the region. -/
def ballEnters (region : Region) : Predicate :=
  total (ballEntersName region) fun w =>
    if region.contains w.ball.position then .passed
    else Verdict.pending.withDetail s!"ball at {Region.pointText w.ball.position}"

/-- Fails as soon as the robot is outside the region or missing. -/
def robotStays (team : Team) (id : Nat) (region : Region) : Predicate :=
  total (robotStaysName team id region) fun w =>
    match w.robot? team id with
    | none => .failed "robot not on field"
    | some robot =>
      if region.contains robot.position then .pending
      else .failed (s!"robot left region at {Region.pointText robot.position}" ++
        s!", t={Decimal.fixed 3 w.timestamp}s")

end Predicate

end Lockstep
