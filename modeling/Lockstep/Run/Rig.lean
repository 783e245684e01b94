import Lockstep.Run.Driver

namespace Lockstep

/-- The two channels and who is left at their far ends: the receiver of ticks, and the sinks that
snapshots are sent through. -/
structure Channels where
  capacity : Nat
  ticks : List TickCommand := []
  worlds : List Snapshot := []
  receiver : Bool := true
  sinks : Nat := 1

namespace Channels

/-- Both channels as they are at first. -/
def opened (capacity : Nat) : Except Panic Channels :=
  (Snapshot.reserve capacity).map fun () => { capacity }

/-- A snapshot channel has room for at least one. -/
def isFull (c : Channels) : Bool := max c.capacity 1 ≤ c.worlds.length

/-- The near ends. A driver that would wait for a snapshot is taken for one whose producer is gone. -/
def link : Link Channels where
  publish tick c :=
    if c.receiver then (.ok (), { c with ticks := c.ticks ++ [tick] })
    else (.error .noTickReceiver, c)
  receive c :=
    match c.worlds with
    | world :: worlds => (.ok world, { c with worlds })
    | [] => (.error .noWorldProducer, c)

end Channels

/-- A driver and the far ends of its two channels, all worked by one hand. The clock is the driver's own, and can
be read when the driver is gone. -/
structure Rig where
  channels : Channels
  clock : Clock := {}
  ticks : Nat := 0
  hasDriver : Bool := true

namespace Rig

inductive Step where
  | send (world : Snapshot)
  | cloneSink
  | dropSink
  | dropReceiver
  | advance (tick : Span)
  | receiveTick
  | dropDriver
  | drain
  | resetClock

inductive Answer where
  | nothing
  | missing
  | wouldBlock
  | sent
  | sinks (count : Nat)
  | world (w : Snapshot)
  | failed (e : LinkError)
  | tick (t : Option TickCommand)
  | remaining (ticks : List TickCommand)

def driver (r : Rig) : TickDriver Channels :=
  { link := Channels.link, state := r.channels, clock := r.clock, ticks := r.ticks }

/-- A step that would have to wait is not carried out and says so. -/
def perform (r : Rig) : Step → Answer × Rig
  | .send world =>
    if r.channels.sinks = 0 then (.missing, r)
    else if !r.hasDriver then (.failed .noWorldSource, r)
    else if r.channels.isFull then (.wouldBlock, r)
    else (.sent, { r with channels := { r.channels with worlds := r.channels.worlds ++ [world] } })
  | .cloneSink =>
    let sinks := if r.channels.sinks = 0 then 0 else r.channels.sinks + 1
    (.sinks sinks, { r with channels := { r.channels with sinks } })
  | .dropSink =>
    let sinks := r.channels.sinks - 1
    (.sinks sinks, { r with channels := { r.channels with sinks } })
  | .dropReceiver =>
    (.nothing, { r with channels := { r.channels with receiver := false, ticks := [] } })
  | .advance tick =>
    if !r.hasDriver then (.missing, r)
    else if r.channels.receiver && r.channels.worlds.isEmpty && r.channels.sinks != 0 then
      (.wouldBlock, r)
    else
      let (answer, d) := r.driver.advance tick
      let r := { r with channels := d.state, clock := d.clock, ticks := d.ticks }
      match answer with
      | .ok world => (.world world, r)
      | .error e => (.failed e, r)
  | .receiveTick =>
    if !r.channels.receiver then (.missing, r)
    else match r.channels.ticks with
      | tick :: ticks => (.tick tick, { r with channels := { r.channels with ticks } })
      | [] => if r.hasDriver then (.wouldBlock, r) else (.tick none, r)
  | .dropDriver => (.nothing, { r with hasDriver := false })
  | .drain =>
    if r.hasDriver || !r.channels.receiver then (.wouldBlock, r)
    else (.remaining r.channels.ticks, { r with channels := { r.channels with ticks := [] } })
  | .resetClock => (.nothing, if r.hasDriver then { r with clock := r.clock.reset } else r)

end Rig

end Lockstep
