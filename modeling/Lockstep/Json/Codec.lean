import Lockstep.Json.Reader
import Lockstep.Json.Value
import Lockstep.Run.Export
import Lockstep.World.Region

/-!
The JSON of the types that are recorded or exchanged. Each type has a value that shows it and a reader
beside it. Members are written in the order of their readers; of the optional ones, `detail`,
`outcome` and `failure_reason` are left out when there is nothing to say, and `predicate` is written
as null.
-/

namespace Lockstep

open Json

variable (floats : FloatRule)

/-- Tick numbers, seeds and counts are words of 64 bits. -/
def wordLimit : Nat := UInt64.size

/-- A member that is left out when it has no value. -/
def Json.unlessNone (name : String) (value : Option Json) : List (String × Json) :=
  match value with
  | some value => [(name, value)]
  | none => []

def Point.json (p : Point) : Json := .list [.float p.x, .float p.y]

def Point.read : Reader Point := fun cs =>
  (readPair floats (readFloat floats) cs).map fun ((x, y), rest) => (⟨x, y⟩, rest)

def TickCommand.json (t : TickCommand) : Json := .record [("milliseconds", .float t.milliseconds)]

def TickCommand.read : Reader TickCommand := fun cs =>
  ((Members.required "milliseconds" (readFloat floats) .nil).read floats cs).map fun (row, rest) =>
    (⟨row.1⟩, rest)

def Team.table : List (String × Team) := [("Blue", .blue), ("Yellow", .yellow)]

def Team.json : Team → Json
  | blue => .text "Blue"
  | yellow => .text "Yellow"

def Team.read : Reader Team := oneOf floats Team.table

def Robot.json (r : Robot) : Json :=
  .record [("id", .nat r.id), ("team", r.team.json), ("position", r.position.json),
    ("velocity", r.velocity.json), ("orientation", .float r.orientation)]

def Robot.members : Members [Nat, Team, Point, Point, Float] :=
  .required "id" (readNat floats UInt32.size) <| .required "team" (Team.read floats) <|
    .required "position" (Point.read floats) <| .required "velocity" (Point.read floats) <|
    .required "orientation" (readFloat floats) .nil

def Robot.read : Reader Robot := fun cs =>
  ((Robot.members floats).read floats cs).map fun ((id, team, position, velocity, orientation, ()), rest) =>
    (⟨id, team, position, velocity, orientation⟩, rest)

def Ball.json (b : Ball) : Json :=
  .record [("position", b.position.json), ("velocity", b.velocity.json)]

def Ball.members : Members [Point, Point] :=
  .required "position" (Point.read floats) <| .required "velocity" (Point.read floats) .nil

def Ball.read : Reader Ball := fun cs =>
  ((Ball.members floats).read floats cs).map fun ((position, velocity, ()), rest) =>
    (⟨position, velocity⟩, rest)

def Snapshot.json (w : Snapshot) : Json :=
  .record [("tick", .nat w.tick), ("timestamp_s", .float w.timestamp),
    ("robots", .list (w.robots.map Robot.json)), ("ball", w.ball.json)]

def Snapshot.members : Members [Nat, Float, List Robot, Ball] :=
  .required "tick" (readNat floats wordLimit) <| .required "timestamp_s" (readFloat floats) <|
    .required "robots" (readList floats (Robot.read floats)) <| .required "ball" (Ball.read floats) .nil

def Snapshot.read : Reader Snapshot := fun cs =>
  ((Snapshot.members floats).read floats cs).map fun ((tick, timestamp, robots, ball, ()), rest) =>
    (⟨tick, timestamp, robots, ball⟩, rest)

def Region.json : Region → Json
  | rectangle min max =>
    .record [("Rectangle", .record [("min", min.json), ("max", max.json)])]
  | circle center radius =>
    .record [("Circle", .record [("center", center.json), ("radius", .float radius)])]

def Region.corners : Members [Point, Point] :=
  .required "min" (Point.read floats) <| .required "max" (Point.read floats) .nil

def Region.disk : Members [Point, Float] :=
  .required "center" (Point.read floats) <| .required "radius" (readFloat floats) .nil

def Region.read : Reader Region :=
  tagged
    [("Rectangle", fun cs =>
        ((Region.corners floats).read floats cs).map fun ((min, max, ()), rest) =>
          (.rectangle min max, rest)),
      ("Circle", fun cs =>
        ((Region.disk floats).read floats cs).map fun ((center, radius, ()), rest) =>
          (.circle center radius, rest))]

def Status.table : List (String × Status) :=
  [("Pending", .pending), ("Passed", .passed), ("Failed", .failed)]

def Status.json : Status → Json
  | pending => .text "Pending"
  | passed => .text "Passed"
  | failed => .text "Failed"

def Status.read : Reader Status := oneOf floats Status.table

def Rule.table : List (String × Rule) := [("Always", .always), ("Eventually", .eventually)]

def Rule.json : Rule → Json
  | always => .text "Always"
  | eventually => .text "Eventually"

def Rule.read : Reader Rule := oneOf floats Rule.table

/-- A text, or null when there is none. -/
def Json.textOrNull : Option String → Json
  | some s => .text s
  | none => .null

def SequenceReport.json (r : SequenceReport) : Json :=
  .record <| [("sequence", .text r.sequence), ("status", r.status.json),
    ("predicate", textOrNull r.predicate), ("completed", .nat r.completed),
    ("total", .nat r.total)] ++ unlessNone "detail" (r.detail.map .text)

def SequenceReport.members :
    Members [String, Status, Option String, Nat, Nat, Option String] :=
  .required "sequence" (readText floats) <| .required "status" (Status.read floats) <|
    .maybe "predicate" (readText floats) <| .required "completed" (readNat floats wordLimit) <|
    .required "total" (readNat floats wordLimit) <| .maybe "detail" (readText floats) .nil

def SequenceReport.read : Reader SequenceReport := fun cs =>
  ((SequenceReport.members floats).read floats cs).map
    fun ((sequence, status, predicate, completed, total, detail, ()), rest) =>
      (⟨sequence, status, predicate, completed, total, detail⟩, rest)

def Report.json (r : Report) : Json :=
  .record [("tick", .nat r.tick), ("sequences", .list (r.sequences.map SequenceReport.json))]

def Report.members : Members [Nat, List SequenceReport] :=
  .required "tick" (readNat floats wordLimit) <|
    .required "sequences" (readList floats (SequenceReport.read floats)) .nil

def Report.read : Reader Report := fun cs =>
  ((Report.members floats).read floats cs).map fun ((tick, sequences, ()), rest) => (⟨tick, sequences⟩, rest)

def Failure.json (f : Failure) : Json :=
  .record [("validation_type", f.rule.json), ("tick", .nat f.tick),
    ("sequences", .list (f.sequences.map SequenceReport.json))]

def Failure.members : Members [Rule, Nat, List SequenceReport] :=
  .required "validation_type" (Rule.read floats) <| .required "tick" (readNat floats wordLimit) <|
    .required "sequences" (readList floats (SequenceReport.read floats)) .nil

def Failure.read : Reader Failure := fun cs =>
  ((Failure.members floats).read floats cs).map fun ((rule, tick, sequences, ()), rest) =>
    (⟨rule, tick, sequences⟩, rest)

def Frame.json (f : Frame) : Json :=
  .record [("elapsed_s", .float f.elapsed), ("world", f.world.json),
    ("eventually", f.eventually.json), ("always", f.always.json)]

def Frame.members : Members [Float, Snapshot, Report, Report] :=
  .required "elapsed_s" (readFloat floats) <| .required "world" (Snapshot.read floats) <|
    .required "eventually" (Report.read floats) <| .required "always" (Report.read floats) .nil

def Frame.read : Reader Frame := fun cs =>
  ((Frame.members floats).read floats cs).map fun ((elapsed, world, eventually, always, ()), rest) =>
    (⟨elapsed, world, eventually, always⟩, rest)

def OutcomeKind.table : List (String × OutcomeKind) :=
  [("Passed", .passed), ("FailedAlways", .failedAlways),
    ("FailedEventuallyTimeout", .failedEventually), ("FailedException", .failedException)]

def OutcomeKind.json : OutcomeKind → Json
  | passed => .text "Passed"
  | failedAlways => .text "FailedAlways"
  | failedEventually => .text "FailedEventuallyTimeout"
  | failedException => .text "FailedException"

def OutcomeKind.read : Reader OutcomeKind := oneOf floats OutcomeKind.table

def RunId.read : Reader RunId := fun cs => do
  let (s, rest) ← readText floats cs
  match RunId.ofText? s with
  | some id => .ok (id, rest)
  | none => .error .mismatched

def RunExport.json (e : RunExport) : Json :=
  .record <| [("run_id", .text e.runId.text), ("scenario", .text e.scenario),
    ("seed", .nat e.seed), ("timeout_s", .float e.timeout),
    ("tick_duration_s", .float e.tickDuration),
    ("frames", .list (e.frames.toList.map Frame.json))] ++
    unlessNone "outcome" (e.outcome.map OutcomeKind.json) ++
    unlessNone "failure_reason" (e.failureReason.map .text) ++
    [("total_ticks", .nat e.totalTicks)]

def RunExport.members :
    Members [RunId, String, Nat, Float, Float, List Frame, Option OutcomeKind, Option String,
      Nat] :=
  .required "run_id" (RunId.read floats) <| .required "scenario" (readText floats) <|
    .required "seed" (readNat floats wordLimit) <| .required "timeout_s" (readFloat floats) <|
    .required "tick_duration_s" (readFloat floats) <|
    .required "frames" (readList floats (Frame.read floats)) <|
    .maybe "outcome" (OutcomeKind.read floats) <| .maybe "failure_reason" (readText floats) <|
    .required "total_ticks" (readNat floats wordLimit) .nil

def RunExport.read : Reader RunExport := fun cs =>
  ((RunExport.members floats).read floats cs).map
    fun ((runId, scenario, seed, timeout, tickDuration, frames, outcome, failureReason,
        totalTicks, ()), rest) =>
      ({ runId, scenario, seed, timeout, tickDuration, frames := frames.toArray, outcome
         failureReason, totalTicks }, rest)

end Lockstep
