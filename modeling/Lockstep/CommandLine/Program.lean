import Lockstep.CommandLine.Arguments
import Lockstep.Journal.Filter
import Lockstep.Number.Shortest
import Lockstep.Trial.Check

namespace Lockstep

/-- What a program that has ended leaves: its exit code, its output, and the lines of its journal and
of its own on the error channel. -/
structure ProgramReport where
  exit : Nat
  output : String := ""
  errors : List String := []

namespace Program

def version : String := "0.1.0"

def rule : JournalLine :=
  ⟨.info, .program, String.ofList (List.replicate 53 '━')⟩

def banner (s : Settings) : List JournalLine :=
  if s.json then [] else [⟨.info, .program, s!"fieldtest Simulator v{version}"⟩, rule]

/-- A text filled up with blanks to a width. -/
def padRight (width : Nat) (s : String) : String :=
  s ++ String.ofList (List.replicate (width - s.length) ' ')

/-- The catalogue that a listing prints: each scenario, then the word for all of them. -/
def availableScenarios : List String :=
  let entry (name description : String) := s!"  {padRight 22 name} {description}"
  ["Available scenarios:"] ++ Scenario.all.map (fun c => entry c.name c.description) ++
    [entry "all" "Every scenario above"]

/-- Why the program refuses settings. -/
inductive Refusal where
  | unknownScenario (name : String)
  | noSeeds
  | invalidSeconds (o : OptionName) (value : Float) (error : Span.SecondsError)
  | invalidConfig (error : RunError)
  | exportOfMany

namespace Refusal

def message : Refusal → String
  | unknownScenario name => Scenario.unknown name
  | noSeeds => "--seeds must be at least 1"
  | invalidSeconds o value error => s!"invalid --{o.long} {Shortest.plain value}: {error.message}"
  | invalidConfig error => error.text
  | exportOfMany => "--export only supports a single scenario and seed"

/-- What is printed, with the names to choose from after an unknown one. -/
def lines (r : Refusal) : List String :=
  s!"Error: {r.message}" ::
    match r with
    | unknownScenario _ => availableScenarios
    | _ => []

end Refusal

def scenarios (s : Settings) : Except Refusal (List Scenario) :=
  if s.scenario = "all" then .ok Scenario.all
  else match Scenario.ofName? s.scenario with
    | some c => .ok [c]
    | none => .error (.unknownScenario s.scenario)

def seconds (o : OptionName) (value : Float) : Except Refusal Span :=
  (Span.ofSeconds value).mapError (.invalidSeconds o value)

def config (s : Settings) : Except Refusal Config := do
  if s.seeds = 0 then throw .noSeeds
  let timeout ← seconds .timeout s.timeout
  let tick ← seconds .tickDuration s.tickDuration
  let c := ((({} : Config).withTimeout timeout).withTick tick).withEarlyExit s.exitEarly
  let c := if s.enableVisualization then c.withVisualization s.layout else c
  match c.validate with
  | .ok () => return c
  | .error e => throw (.invalidConfig e)

/-- What a program that accepted its settings is going to do. -/
structure Plan where
  scenarios : List Scenario
  config : Config

/-- The plan of settings. Of several faults the first of these counts: the scenario, the number of
seeds, the timeout, the tick, their timing, the export. -/
def plan (s : Settings) : Except Refusal Plan := do
  let scenarios ← scenarios s
  let config ← config s
  if s.exportPath.isSome && (1 < scenarios.length || 1 < s.seeds) then throw .exportOfMany
  return { scenarios, config }

/-- The seeds of a program, which wrap around. -/
def seedsFrom (base : UInt64) (count : Nat) : List UInt64 :=
  (List.range count).map fun i => base + UInt64.ofNat i

end Program

/-- The checks of a program, in order, and how many of them did not find the expected outcome. A recording, if one
is asked for, is saved between the session and its report, which depends on whether that succeeded. -/
structure Session where
  settings : Settings
  checks : List ScenarioCheck := []
  failed : Nat := 0

namespace Session

/-- Takes up one more check. -/
def note (s : Session) (c : ScenarioCheck) : Session :=
  { s with checks := s.checks ++ [c], failed := if c.result.passed then s.failed else s.failed + 1 }

/-- Runs the scenarios in turn under one seed. -/
def runScenarios (config : Config) (recorded : Option RunId) (seed : UInt64)
    (scenarios : List Scenario) (s : Session) : Option Session :=
  scenarios.foldlM (fun s scenario =>
    (ScenarioCheck.run config s.settings.rerun recorded seed scenario).map s.note) s

/-- Runs every scenario of a plan under every seed, all scenarios under one seed first. The base seed
is the one of the settings unless that is zero. -/
def run (s : Settings) (p : Program.Plan) (clockSeed : UInt64) (runId : RunId) : Option Session :=
  let base := if s.seed = 0 then clockSeed else s.seed
  let recorded := if s.exportPath.isSome then some runId else none
  (Program.seedsFrom base s.seeds).foldlM (fun session seed =>
    session.runScenarios p.config recorded seed p.scenarios) { settings := s }

def results (s : Session) : List ScenarioResult := s.checks.map (·.result)

/-- The recording to save and where to save it. -/
def recording? (s : Session) : Option (String × RunExport) :=
  match s.settings.exportPath, s.checks with
  | some path, [check] => check.recording.map fun recording => (path, recording)
  | _, _ => none

def total (s : Session) : Nat := s.checks.length

/-- What is left of all checks without those that failed. -/
def passed (s : Session) : Nat := s.total - s.failed

/-- What is said of a result right after its check. -/
def verdictLine (r : ScenarioResult) : JournalLine :=
  if r.passed then
    ⟨.info, .program, s!"✓ {r.scenario.name} (seed={r.seed.toNat}) {r.outcome.kind.name} " ++
      s!"as expected in {r.ticks} ticks"⟩
  else
    ⟨.error, .program, s!"✗ {r.scenario.name} (seed={r.seed.toNat}) MISMATCH: " ++
      (r.failureReason?.getD "unknown")⟩

/-- The journal of a check, with the line on its saved recording and its verdict. -/
def checkLines (s : Session) (written : Except SaveError Unit) (c : ScenarioCheck) :
    List JournalLine :=
  c.journal ++
    (match s.settings.exportPath, c.recording with
      | some path, some recording => [ScenarioCheck.saved path recording written]
      | _, _ => []) ++
    if s.settings.json then [] else [verdictLine c.result]

/-- What is said at the end of a session that prints no summary. -/
def closingLines (s : Session) : List JournalLine :=
  [⟨.info, .program, ""⟩, Program.rule] ++
    if s.failed = 0 then
      [⟨.info, .program, s!"✅ All {s.total} scenario runs matched their expected outcome!"⟩]
    else
      ⟨.error, .program, s!"❌ {s.failed}/{s.total} scenario runs did not match!"⟩ ::
      (s.results.filter (!·.passed)).map fun r =>
        ⟨.error, .program, s!"  - {r.scenario.name} seed={r.seed.toNat}: " ++
          (r.failureReason?.getD "unknown")⟩

def resultJson (r : ScenarioResult) : Json :=
  .record [("expected", r.expected.json), ("failure_reason", Json.textOrNull r.failureReason?),
    ("outcome", r.outcome.kind.json), ("passed", .bool r.passed),
    ("scenario", .text r.scenario.name), ("seed", .nat r.seed.toNat), ("ticks", .nat r.ticks),
    ("time_secs", .float r.elapsed.seconds)]

/-- The summary of a session, with the members of each record in the order of their names. -/
def summary (s : Session) : Json :=
  .record [("failed", .nat s.failed), ("passed", .nat s.passed),
    ("results", .list (s.results.map resultJson)), ("total", .nat s.total)]

/-- The report of a session, once its recording was saved or could not be. -/
def report (s : Session) (filter : Journal.Filter) (written : Except SaveError Unit) : ProgramReport :=
  let journal := Program.banner s.settings ++ s.checks.flatMap (s.checkLines written) ++
    if s.settings.json then [] else s.closingLines
  { exit := if 0 < s.failed then 1 else 0
    output := if s.settings.json then s.summary.pretty ++ "\n" else ""
    errors := (journal.filter filter.lets).map JournalLine.text }

end Session

namespace Program

/-- The filter of the journal: the given one if it can be read, and else one by the settings. -/
def filter (s : Settings) (given : Option String) : Journal.Filter :=
  (given.bind Journal.Filter.ofText?).getD (.upTo (if s.verbose then 4 else 3))

/-- The report of a program that refuses its settings. -/
def refused (s : Settings) (filter : Journal.Filter) (r : Refusal) : ProgramReport :=
  { exit := 2, errors := ((banner s).filter filter.lets).map JournalLine.text ++ r.lines }

def describe : OptionName → String
  | .seed => "Master seed for determinism (0 = random from time) [default: 42]"
  | .scenario => "Scenario to run (robot_reaches_center, ball_into_goal, robot_leaves_field, " ++
    "unreachable_target, transport_drop, all) [default: all]"
  | .seeds => "Number of consecutive seeds to test (for CI mode) [default: 1]"
  | .timeout => "Simulated timeout in seconds [default: 3]"
  | .tickDuration => "Simulated tick duration in seconds [default: 0.016666666666666666]"
  | .enableVisualization => "Run with the live display (threaded mode, real-time pacing)"
  | .layout => "Display layout id"
  | .exitEarly => "Stop as soon as every eventually validation has passed"
  | .rerun => "Stream runs to a Rerun viewer (needs the `visualization` feature)"
  | .verbose => "Verbose output"
  | .json => "JSON output for CI parsing"
  | .exportPath => "Export the run to a JSON file (single scenario only)"
  | .help => "Print help"

def helpText : String :=
  let entry (o : OptionName) :=
    let letter := match o.letter? with
      | some c => "-" ++ String.ofList [c] ++ ", "
      | none => "    "
    s!"  {letter}{o.usage}\n          {describe o}\n"
  "Run tick-synchronized simulated field tests\n\nUsage: fieldtest-sim [OPTIONS]\n\nOptions:\n" ++
    String.intercalate "" (OptionName.all.map entry)

/-- The report of a program whose arguments yield no settings. -/
def misused : ArgumentError → ProgramReport
  | .help => { exit := 0, output := helpText }
  | e => { exit := 2, errors := [s!"error: {e.message}", "", "Usage: fieldtest-sim [OPTIONS]", "",
      "For more information, try '--help'."] }

/-- Runs the program up to the point where its recording is saved: a report if it ends before that,
or else a session and its filter. There is no result while a run goes on. -/
def start (arguments : List String) (givenFilter : Option String) (clockSeed : UInt64)
    (runId : RunId) : Option (ProgramReport ⊕ Session × Journal.Filter) :=
  match Settings.ofArguments arguments with
  | .error e => some (.inl (misused e))
  | .ok s =>
    let filter := filter s givenFilter
    match plan s with
    | .error r => some (.inl (refused s filter r))
    | .ok p => (Session.run s p clockSeed runId).map fun session => .inr (session, filter)

end Program

end Lockstep
