import Lockstep.Field.Basic
import Lockstep.Run.Driver

namespace Lockstep

/-- The faults of a server: the number of ticks after which it stops, if any. -/
structure FaultPlan where
  dropAfter : Option Nat := none
deriving DecidableEq

/-- Whether a server that has served this many ticks stops at the next one. -/
def FaultPlan.drops (p : FaultPlan) (served : Nat) : Bool :=
  match p.dropAfter with
  | some limit => limit ≤ served
  | none => false

/-- What a server leaves behind when it stops. -/
structure ServerReport where
  ticksServed : Nat
  finalTime : Float

/-- A server advances its field for every tick that it receives and answers with one snapshot, numbered from 1,
until its fault plan stops it. -/
structure FieldServer where
  field : Field
  faults : FaultPlan := {}
  served : Nat := 0
  stopped : Bool := false

namespace FieldServer

/-- Receives a tick: the snapshot that answers it, unless the server stops. -/
def receive (s : FieldServer) (tick : TickCommand) : Option Snapshot × FieldServer :=
  if s.faults.drops s.served then (none, { s with stopped := true })
  else
    let served := s.served + 1
    let (world, field) := (s.field.step tick.seconds).snapshot served
    (some world, { s with field, served })

def report (s : FieldServer) : ServerReport := ⟨s.served, s.field.time⟩

/-- A server and the snapshots that it has sent and nobody has taken yet. -/
structure Post where
  server : FieldServer
  sent : List Snapshot := []

/-- The link to a server that answers each tick before the driver asks for the snapshot. A stopped
server receives no ticks and sends no snapshots. -/
def link : Link Post where
  publish tick p :=
    if p.server.stopped then (.error .noTickReceiver, p)
    else
      match p.server.receive tick with
      | (some world, server) => (.ok (), ⟨server, p.sent ++ [world]⟩)
      | (none, server) => (.ok (), { p with server })
  receive p :=
    match p.sent with
    | world :: rest => (.ok world, { p with sent := rest })
    | [] => (.error .noWorldProducer, p)

/-- A field behind a channel with room for that many snapshots. -/
def Post.opened (capacity : Nat) (field : Field) (faults : FaultPlan) : Except Panic Post :=
  (Snapshot.reserve capacity).map fun () => { server := { field, faults } }

/-- Publishes ticks one by one and takes the snapshot that answers each. The first error ends it. -/
def exchange (p : Post) : List Span → List (Except LinkError Snapshot) × Post
  | [] => ([], p)
  | tick :: rest =>
    match link.publish (.ofSpan tick) p with
    | (.error e, p) => ([.error e], p)
    | (.ok (), p) =>
      match link.receive p with
      | (.error e, p) => ([.error e], p)
      | (.ok world, p) =>
        let (answers, p) := exchange p rest
        (.ok world :: answers, p)

/-- A last tick whose snapshot nobody takes. -/
def lastTick (p : Post) (tick : Span) : Post :=
  if p.server.stopped then p else { p with server := (p.server.receive (.ofSpan tick)).2 }

/-- A driver at time zero for a server that serves the field. -/
def driver (field : Field) (faults : FaultPlan) : TickDriver Post :=
  { link, state := { server := { field, faults } } }

end FieldServer

end Lockstep
