import Lockstep.Json.Codec
import Lockstep.Journal.Narration
import Lockstep.Run.Destination
import Lockstep.Trial.Scenario

namespace Lockstep

/-- What a check of a built-in scenario found. -/
structure ScenarioResult where
  scenario : Scenario
  seed : UInt64
  outcome : Outcome
  ticks : Nat
  elapsed : Span

namespace ScenarioResult

def expected (r : ScenarioResult) : OutcomeKind := r.scenario.expected

def passed (r : ScenarioResult) : Bool := r.outcome.kind == r.expected

/-- How the outcome differs from the expected one. -/
def failureReason? (r : ScenarioResult) : Option String :=
  if r.passed then none
  else
    let reason := match r.outcome.reason? with
      | some reason => s!": {reason}"
      | none => ""
    some s!"expected {r.expected.name}, got {r.outcome.kind.name}{reason}"

end ScenarioResult

/-- A check of one scenario: what it found, its recording if one was asked for, and what it wrote to
the journal up to the moment at which the recording is saved. -/
structure ScenarioCheck where
  result : ScenarioResult
  recording : Option RunExport
  journal : List JournalLine

namespace ScenarioCheck

/-- What is said before the run. The viewer is not available and says so when it is asked for. -/
def opening (scenario : Scenario) (seed : UInt64) (viewer : Bool) : List JournalLine :=
  [⟨.info, .runner, s!"Starting scenario: {scenario.name} (seed={seed.toNat})"⟩,
    ⟨.debug, .runner, s!"  {scenario.description}"⟩] ++
  if viewer then
    [⟨.info, .visualizer,
      "Rerun visualization not available (compile with --features visualization)"⟩]
  else []

/-- Runs a scenario, and records it under an identifier if one is given. -/
def run (config : Config) (viewer : Bool) (runId : Option RunId) (seed : UInt64)
    (scenario : Scenario) : Option ScenarioCheck :=
  let setup := scenario.build seed
  let blank := RunExport.opened (runId.getD ⟨0⟩) scenario.name seed.toNat config.timing
  (Trial.run config (.waiting {}) setup (.pair .recorder .exporter) ({}, blank)).map
    fun (run, (seen, recording), _) =>
      { result := ⟨scenario, seed, run.outcome, run.ticks, run.elapsed⟩
        recording := if runId.isSome then some recording else none
        journal := opening scenario seed viewer ++
          Narration.trial config setup run seen.ticks }

/-- Makes the buffer and runs a scenario. -/
def launch (config : Config) (viewer : Bool) (runId : Option RunId) (seed : UInt64)
    (scenario : Scenario) : Except Panic (Option ScenarioCheck) :=
  config.reserve.map fun () => run config viewer runId seed scenario

/-- What is said after a recording was saved at a path, or could not be. -/
def saved (path : String) (recording : RunExport) (written : Except SaveError Unit) : JournalLine :=
  match written with
  | .ok () => ⟨.info, .runner, s!"Exported {recording.frames.size} frames to {path}"⟩
  | .error e => ⟨.error, .runner, s!"Failed to write export: {e.text}"⟩

end ScenarioCheck

end Lockstep
