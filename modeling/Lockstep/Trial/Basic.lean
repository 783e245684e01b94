import Lockstep.Field.Server
import Lockstep.Run.Orchestrator
import Lockstep.Trial.Config

namespace Lockstep

/-- What a trial reports. There is no server report if the field was never served. -/
structure TestRun where
  outcome : Outcome
  /-- The ticks that the simulated time is made of. -/
  ticks : Nat
  /-- The ticks that were published. The time of a run that goes on for too long wraps around, and so
  this can be more than `ticks`. -/
  published : Nat
  elapsed : Span
  server : Option ServerReport

namespace TestRun

/-- A trial that ended before its first tick. -/
def aborted (e : RunError) : TestRun :=
  { outcome := .failedException e, ticks := 0, published := 0, elapsed := .zero, server := none }

/-- The ticks that a time is made of. -/
def ticksIn (elapsed tick : Span) : Nat :=
  if tick.nanos = 0 then 0 else min (elapsed.nanos / tick.nanos) (UInt64.size - 1)

end TestRun

/-- What is put to the test: a field with its faults, and the sets that judge it. -/
structure Setup where
  field : Field
  faults : FaultPlan := {}
  always : SequenceSet := {}
  eventually : SequenceSet := {}

namespace Setup

/-- Moves the field by one step without a run, and judges it by both sets: the snapshot, what the sets
say of it, always first, and the setup afterwards. -/
def rehearse (s : Setup) (dt : Float) (tick : Nat) :
    Except Panic (Snapshot × Report × Report × Setup) := do
  let (world, field) := (s.field.step dt).snapshot tick
  let (seenAlways, always) ← s.always.evaluate world
  let (seenEventually, eventually) ← s.eventually.evaluate world
  return (world, seenAlways, seenEventually, { s with field, always, eventually })

end Setup

namespace Trial

/-- The orchestrator of a trial before its run. -/
def orchestrator {ω : Type} (config : Config) (setup : Setup) (observer : Observer ω) (notes : ω) :
    Orchestrator FieldServer.Post ω :=
  { driver := FieldServer.driver setup.field setup.faults
    observer, notes, earlyExit := config.earlyExit }

/-- Runs a trial: its report, the observer's notes, and the display as it is afterwards. Without a
valid timing nothing is served, shown or told. There is no result while the run goes on. -/
def run {ω : Type} (config : Config) (display : Display) (setup : Setup) (observer : Observer ω)
    (notes : ω) : Option (TestRun × ω × Display) :=
  match config.validate with
  | .error e => some (.aborted e, notes, display)
  | .ok () =>
    ((orchestrator config setup observer notes).run setup.always setup.eventually
      config.timing).map fun (call, o) =>
        let (outcome, display) :=
          if config.visualization then Bridge.visualized call display
          else (Bridge.outcome call, display)
        let elapsed := o.driver.elapsed
        ({ outcome, elapsed, ticks := TestRun.ticksIn elapsed config.timing.tick
           published := o.driver.ticks
           server := some o.driver.state.server.report }, o.notes, display)

end Trial

/-- Runs one trial after the other under one configuration. A display that it was given is for the
first trial that is shown; every other trial gets one of its own. -/
structure TrialRunner where
  config : Config
  display : Option Display := none
  /-- Whether the given display has had its trial. -/
  used : Bool := false

namespace TrialRunner

/-- The display for the next trial. -/
def nextDisplay (r : TrialRunner) : Display :=
  if r.used then .waiting {} else r.display.getD (.waiting {})

/-- The runner after a trial, which left its display behind if it was shown. -/
def after (r : TrialRunner) (shown : Bool) (left : Display) : TrialRunner :=
  if shown && !r.used then { r with display := r.display.map fun _ => left, used := true } else r

/-- Runs a trial: its report, the observer's notes, and the runner for the next one. -/
def run {ω : Type} (r : TrialRunner) (setup : Setup) (observer : Observer ω) (notes : ω) :
    Option (TestRun × ω × TrialRunner) :=
  (Trial.run r.config r.nextDisplay setup observer notes).map fun (report, notes, left) =>
    (report, notes, r.after (r.config.visualization && report.server.isSome) left)

/-- Makes the buffer and runs a trial. Without a buffer there is no trial, and whoever asked for it breaks off. -/
def launch {ω : Type} (r : TrialRunner) (setup : Setup) (observer : Observer ω) (notes : ω) :
    Except Panic (Option (TestRun × ω × TrialRunner)) :=
  r.config.reserve.map fun () => r.run setup observer notes

end TrialRunner

end Lockstep
