import Lockstep.Journal.Line
import Lockstep.Trial.Basic

namespace Lockstep.Narration

/-- The share of the sequences that have passed. -/
def passedShare (r : Report) : String :=
  s!"{r.count .passed}/{r.sequences.length}"

/-- The progress that is noted at every sixtieth tick. -/
def progress (o : Observation) : List JournalLine :=
  if o.world.tick % 60 = 0 then
    [⟨.debug, .orchestrator, s!"  t={Decimal.fixed 2 o.elapsed.seconds}s | " ++
      s!"tick={o.world.tick} | eventually passed {passedShare o.eventually}"⟩]
  else []

def start (timing : Timing) (always eventually : SequenceSet) : JournalLine :=
  ⟨.info, .orchestrator, s!"Starting run: timeout={Decimal.fixed 3 timing.timeout.seconds}s " ++
    s!"tick={Decimal.fixed 2 (timing.tick.seconds * 1000.0)}ms " ++
    s!"always={always.size} eventually={eventually.size}"⟩

/-- The end of a run that had the given observations. An exit is early when it was allowed and there
was an eventually set to pass. -/
def ending (earlyExit : Bool) (setup : Setup) (run : TestRun) (seen : Array Observation) :
    List JournalLine :=
  match run.outcome with
  | .passed =>
    match seen.back? with
    | some last =>
      (if earlyExit && !setup.eventually.isEmpty then
        [⟨.info, .orchestrator, "All eventually validations passed at tick " ++
          s!"{last.world.tick}, exiting early"⟩] else []) ++
      [⟨.info, .orchestrator, s!"✓ Run passed after {last.eventually.tick} ticks " ++
        s!"({Decimal.fixed 3 last.elapsed.seconds}s simulated)"⟩]
    | none => []
  | .failedAlways failure =>
    ⟨.warn, .orchestrator, s!"✗ {failure.text}"⟩ ::
      match seen.back? with
      | some last =>
        [⟨.debug, .orchestrator,
          s!"Eventually state at violation: {passedShare last.eventually} passed"⟩]
      | none => []
  | .failedEventually failure => [⟨.warn, .orchestrator, s!"✗ {failure.text}"⟩]
  | .failedException (.panicked message) =>
    [⟨.error, .bridge, (RunError.panicked message).text⟩]
  | .failedException error =>
    let served := (run.server.map (·.ticksServed)).getD 0
    (if setup.faults.drops served then
      [⟨.warn, .world, s!"✗ Field server dropping transport after {served} ticks"⟩] else []) ++
    [⟨.error, .orchestrator, s!"Run aborted after {run.published} ticks: {error.text}"⟩]

/-- What is said when no display was given and there is none to open. -/
def noDashboard (config : Config) : List JournalLine :=
  ⟨.info, .runner, "Terminal dashboard not available (compile with --features dashboard)"⟩ ::
    match config.effectiveLayout with
    | some layout => [⟨.debug, .runner, s!"Display layout '{layout}' ignored"⟩]
    | none => []

/-- What is said of the display of a run that has ended. -/
def closing (config : Config) (outcome : Outcome) : List JournalLine :=
  if outcome.isPassed then []
  else [⟨.warn, .bridge, "Run failed, closing display in " ++
    s!"{Decimal.fixed 1 config.closeDelays.failure.seconds}s"⟩]

/-- The lines of a trial without a display of its own. -/
def trial (config : Config) (setup : Setup) (run : TestRun) (seen : Array Observation) :
    List JournalLine :=
  match config.validate with
  | .error e => [⟨.error, .runner, s!"Run aborted before the first tick: {e.text}"⟩]
  | .ok () =>
    ⟨.debug, .world, s!"Field server started (seed {setup.field.seed.toNat})"⟩ ::
      (if config.visualization then noDashboard config else []) ++
      start config.timing setup.always setup.eventually ::
      seen.toList.flatMap progress ++
      ending config.earlyExit setup run seen ++
      (if config.visualization then closing config run.outcome else [])

end Lockstep.Narration
