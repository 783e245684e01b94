import Lockstep.Run.Outcome
import Lockstep.Time.Clock
import Lockstep.World.Snapshot

namespace Lockstep

/-- The most snapshots that a buffer can be made for: each takes 80 bytes in it, and a buffer is
smaller than `2 ^ 63` bytes. -/
def Snapshot.maxBuffered : Nat := 115292150460684697

/-- Makes the buffer of a channel that holds that many snapshots. -/
def Snapshot.reserve (capacity : Nat) : Except Panic Unit :=
  if capacity ≤ maxBuffered then .ok () else .error (.text "capacity overflow")

/-- The way to the field and back. Either direction may fail, and may change its state when it
does. -/
structure Link (σ : Type) where
  publish : TickCommand → σ → Except LinkError Unit × σ
  receive : σ → Except LinkError Snapshot × σ

/-- A driver advances simulated time one tick at a time. How a tick travels and where snapshots come from is up
to its link. -/
structure TickDriver (σ : Type) where
  link : Link σ
  state : σ
  clock : Clock := {}
  ticks : Nat := 0

namespace TickDriver

def elapsed {σ : Type} (d : TickDriver σ) : Span :=
  d.clock.elapsed

/-- The driver after a tick of the given length was published. -/
def counted {σ : Type} (d : TickDriver σ) (tick : Span) (state : σ) : TickDriver σ :=
  { d with state, clock := d.clock.advance tick, ticks := d.ticks + 1 }

/-- Publishes a tick, and counts it if that succeeds. -/
def issue {σ : Type} (d : TickDriver σ) (tick : Span) : Except LinkError Unit × TickDriver σ :=
  match d.link.publish (.ofSpan tick) d.state with
  | (.error e, state) => (.error e, { d with state })
  | (.ok (), state) => (.ok (), d.counted tick state)

/-- Takes the snapshot that answers the tick published last. -/
def collect {σ : Type} (d : TickDriver σ) : Except LinkError Snapshot × TickDriver σ :=
  let (answer, state) := d.link.receive d.state
  let d := { d with state }
  match answer with
  | .error e => (.error e, d)
  | .ok world =>
    if world.tick = d.ticks then (.ok world, d)
    else (.error (.outOfOrder d.ticks world.tick), d)

/-- Publishes one tick and, if that succeeds, takes one snapshot, whose number must be the number of ticks
published so far. -/
def advance {σ : Type} (d : TickDriver σ) (tick : Span) :
    Except LinkError Snapshot × TickDriver σ :=
  match d.issue tick with
  | (.error e, d) => (.error e, d)
  | (.ok (), d) => d.collect

end TickDriver

/-- A link that plays back given answers. Publishing fails from a given publication on, and when the
answers are used up the producer is gone. -/
structure Playback where
  answers : List (Except LinkError Snapshot)
  published : Nat := 0
  publishFailsAt : Option Nat := none

namespace Playback

def link : Link Playback where
  publish _ p :=
    let p := { p with published := p.published + 1 }
    match p.publishFailsAt with
    | some n => if n ≤ p.published then (.error .noTickReceiver, p) else (.ok (), p)
    | none => (.ok (), p)
  receive p :=
    match p.answers with
    | [] => (.error .noWorldProducer, p)
    | answer :: rest => (answer, { p with answers := rest })

end Playback

end Lockstep
