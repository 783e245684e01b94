import Lockstep.Run.Observer
import Lockstep.Run.RunId

namespace Lockstep

/-- The recording of a run: every frame in order and, once the run has finished, how it ended. -/
structure RunExport where
  runId : RunId
  scenario : String
  seed : Nat
  timeout : Float
  tickDuration : Float
  frames : Array Frame := #[]
  outcome : Option OutcomeKind := none
  failureReason : Option String := none
  totalTicks : Nat := 0

namespace RunExport

/-- A recording of a run that has not begun. -/
def opened (runId : RunId) (scenario : String) (seed : Nat) (timing : Timing) : RunExport :=
  { runId, scenario, seed, timeout := timing.timeout.seconds, tickDuration := timing.tick.seconds }

/-- Appends a frame, whose tick number is the number of ticks so far. -/
def addFrame (e : RunExport) (f : Frame) : RunExport :=
  { e with frames := e.frames.push f, totalTicks := f.world.tick }

def finalize (e : RunExport) (o : Outcome) : RunExport :=
  { e with outcome := some o.kind, failureReason := o.reason? }

end RunExport

/-- Keeps a recording up to date with a run. -/
def Observer.exporter : Observer RunExport where
  onTick o e := e.addFrame o.frame
  onFinish o e := e.finalize o

end Lockstep
