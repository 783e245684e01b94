import Lockstep.Field.Server
import Lockstep.Run.Rig

/-!
The driver of a run and the field server as two parties, each working at its own pace. A channel without
bounds takes the ticks from the one to the other, and a channel of fixed size the snapshots back. A
party that has left drops its two ends of the channels, one after the other in either order.

The run of the driver is over after a given number of ticks, or with the first error. It never leaves
between a tick and the answer to it.
-/

namespace Lockstep

/-- Where the driver of a run is. It counts the ticks that come after the one at hand. -/
inductive DriverPhase where
  | publishing (more : Nat)
  | awaiting (more : Nat)
  | leaving
deriving DecidableEq

/-- The phase of a driver that has this many ticks to publish. -/
def DriverPhase.ofTicks : Nat → DriverPhase
  | 0 => leaving
  | more + 1 => publishing more

/-- Where the server is. -/
inductive ServerPhase where
  | listening
  | answering (tick : TickCommand)
  | sending (world : Snapshot)
  | leaving

/-- The two parties. The driver's link leads into the channels, whose far ends are the server's. -/
structure Parties where
  tick : Span
  driver : TickDriver Channels
  driving : DriverPhase
  taken : List Snapshot := []
  error : Option LinkError := none
  /-- Whether the driver still holds its end of the ticks. -/
  publisher : Bool := true
  /-- Whether the driver still holds its end of the snapshots. -/
  source : Bool := true
  server : FieldServer
  serving : ServerPhase := .listening

namespace Parties

def channels (s : Parties) : Channels := s.driver.state

def withChannels (s : Parties) (channels : Channels) : Parties :=
  { s with driver := { s.driver with state := channels } }

/-- What a party can do next: the first four are the driver's steps, the others the server's. -/
inductive Step where
  | publish
  | take
  | dropPublisher
  | dropSource
  | receive
  | answer
  | send
  | dropReceiver
  | dropSink
deriving DecidableEq

/-- Carries out a step. One that is not its party's turn, or that would have to wait, has no result. -/
def step (s : Parties) : Step → Option Parties
  | .publish =>
    match s.driving with
    | .publishing more =>
      match s.driver.issue s.tick with
      | (.ok (), driver) => some { s with driver, driving := .awaiting more }
      | (.error e, driver) => some { s with driver, driving := .leaving, error := some e }
    | _ => none
  | .take =>
    match s.driving with
    | .awaiting more =>
      if s.channels.worlds.isEmpty && s.channels.sinks != 0 then none
      else
        match s.driver.collect with
        | (.ok world, driver) =>
          some { s with driver, driving := .ofTicks more, taken := s.taken ++ [world] }
        | (.error e, driver) => some { s with driver, driving := .leaving, error := some e }
    | _ => none
  | .dropPublisher =>
    match s.driving, s.publisher with
    | .leaving, true => some { s with publisher := false }
    | _, _ => none
  | .dropSource =>
    match s.driving, s.source with
    | .leaving, true => some { s.withChannels { s.channels with worlds := [] } with source := false }
    | _, _ => none
  | .receive =>
    match s.serving, s.channels.ticks with
    | .listening, tick :: ticks =>
      some { s.withChannels { s.channels with ticks } with serving := .answering tick }
    | .listening, [] => if s.publisher then none else some { s with serving := .leaving }
    | _, _ => none
  | .answer =>
    match s.serving with
    | .answering tick =>
      match s.server.receive tick with
      | (some world, server) => some { s with server, serving := .sending world }
      | (none, server) => some { s with server, serving := .leaving }
    | _ => none
  | .send =>
    match s.serving with
    | .sending world =>
      if !s.source then some { s with serving := .leaving }
      else if s.channels.isFull then none
      else
        some { s.withChannels { s.channels with worlds := s.channels.worlds ++ [world] } with
          serving := .listening }
    | _ => none
  | .dropReceiver =>
    match s.serving, s.channels.receiver with
    | .leaving, true =>
      some (s.withChannels { s.channels with receiver := false, ticks := [] })
    | _, _ => none
  | .dropSink =>
    match s.serving, s.channels.sinks with
    | .leaving, sinks + 1 => some (s.withChannels { s.channels with sinks })
    | _, _ => none

/-- Carries out the steps of a schedule in turn, if each of them has a result. -/
def steps (s : Parties) : List Step → Option Parties
  | [] => some s
  | a :: as => (s.step a).bind fun s => steps s as

/-- Both parties have left and dropped their ends. -/
def Finished (s : Parties) : Prop :=
  s.driving = .leaving ∧ s.publisher = false ∧ s.source = false ∧
    s.serving = .leaving ∧ s.channels.receiver = false ∧ s.channels.sinks = 0

end Parties

/-- What two parties are launched with: the field and its faults, the buffer for snapshots, and the
length and the number of the ticks of the run. -/
structure Launch where
  field : Field
  faults : FaultPlan
  buffer : Nat
  tick : Span
  ticks : Nat

def Launch.parties (l : Launch) : Parties :=
  { tick := l.tick
    driver := { link := Channels.link, state := { capacity := l.buffer } }
    driving := .ofTicks l.ticks
    server := { field := l.field, faults := l.faults } }

end Lockstep
