import Lockstep.CommandLine.Program
import Lockstep.Json.Document
import Lockstep.Proofs.Computation
import Lockstep.Proofs.Trial.Checks

namespace Lockstep

namespace Settings

/-- The scenarios that the settings name, if there are any of that name. -/
def scenarios? (s : Settings) : Option (List Scenario) :=
  if s.scenario = "all" then some Scenario.all else (Scenario.ofName? s.scenario).map fun c => [c]

/-- A configuration with what the settings ask for. -/
def configure (s : Settings) (timing : Timing) (c : Config) : Config :=
  let c := { c with timing, earlyExit := s.exitEarly }
  if s.enableVisualization then { c with visualization := true, pacing := true, layout := s.layout } else c

/-- Settings that the program refuses. -/
inductive Faulty (s : Settings) : Prop
  | scenario (unknown : s.scenarios? = none)
  | seeds (none : s.seeds = 0)
  | timeout {e : Span.SecondsError} (inconvertible : Span.ofSeconds s.timeout = .error e)
  | tick {e : Span.SecondsError} (inconvertible : Span.ofSeconds s.tickDuration = .error e)
  | timing {t : Timing} (timeout : Span.ofSeconds s.timeout = .ok t.timeout)
      (tick : Span.ofSeconds s.tickDuration = .ok t.tick) (invalid : ¬ t.Valid)
  | export {S : List Scenario} (asked : s.exportPath ≠ none) (scenarios : s.scenarios? = some S)
      (many : 1 < S.length ∨ 1 < s.seeds)

/-- Settings for which the program checks these scenarios with this timing. -/
structure Selects (s : Settings) (S : List Scenario) (t : Timing) : Prop where
  scenarios : s.scenarios? = some S
  seeds : s.seeds ≠ 0
  timeout : Span.ofSeconds s.timeout = .ok t.timeout
  tick : Span.ofSeconds s.tickDuration = .ok t.tick
  valid : t.Valid
  single : s.exportPath ≠ none → S.length ≤ 1 ∧ s.seeds ≤ 1

variable {s : Settings} {S : List Scenario} {t : Timing}

@[simp]
theorem timing_configure (s : Settings) (t : Timing) (c : Config) : (s.configure t c).timing = t := by
  unfold configure
  cases s.enableVisualization <;> rfl

/-- Both durations together have one timing. -/
theorem Selects.eq_timing {t' : Timing} (h : s.Selects S t)
    (htimeout : Span.ofSeconds s.timeout = .ok t'.timeout)
    (htick : Span.ofSeconds s.tickDuration = .ok t'.tick) : t' = t := by
  have hfirst := Except.ok.inj (htimeout.symm.trans h.timeout)
  have hsecond := Except.ok.inj (htick.symm.trans h.tick)
  cases t
  cases t'
  cases hfirst
  cases hsecond
  rfl

theorem Selects.not_faulty (h : s.Selects S t) : ¬ s.Faulty := by
  intro hfaulty
  cases hfaulty with
  | scenario hunknown => cases hunknown.symm.trans h.scenarios
  | seeds hnone => exact h.seeds hnone
  | timeout hfails => cases hfails.symm.trans h.timeout
  | tick hfails => cases hfails.symm.trans h.tick
  | timing htimeout htick hinvalid =>
    obtain rfl := h.eq_timing htimeout htick
    exact hinvalid h.valid
  | «export» hasked hscenarios hmany =>
    obtain rfl := Option.some.inj (hscenarios.symm.trans h.scenarios)
    obtain ⟨hone, honly⟩ := h.single hasked
    omega

/-- Settings select one list of scenarios and one timing. -/
theorem Selects.unique {S' : List Scenario} {t' : Timing} (h : s.Selects S t) (h' : s.Selects S' t') :
    S' = S ∧ t' = t :=
  ⟨Option.some.inj (h'.scenarios.symm.trans h.scenarios), h.eq_timing h'.timeout h'.tick⟩

theorem exists_selects (h : ¬ s.Faulty) : ∃ S t, s.Selects S t := by
  have hscenarios : s.scenarios? ≠ none := fun hnone => h (.scenario hnone)
  obtain ⟨S, hS⟩ := Option.ne_none_iff_exists'.mp hscenarios
  have htimeout : ∃ d, Span.ofSeconds s.timeout = .ok d := by
    cases hd : Span.ofSeconds s.timeout with
    | ok d => exact ⟨d, rfl⟩
    | error e => exact absurd (.timeout hd) h
  have htick : ∃ d, Span.ofSeconds s.tickDuration = .ok d := by
    cases hd : Span.ofSeconds s.tickDuration with
    | ok d => exact ⟨d, rfl⟩
    | error e => exact absurd (.tick hd) h
  obtain ⟨timeout, htimeout⟩ := htimeout
  obtain ⟨tick, htick⟩ := htick
  refine ⟨S, ⟨timeout, tick⟩, hS, fun hnone => h (.seeds hnone), htimeout, htick, ?_, ?_⟩
  · by_contra hinvalid
    exact h (.timing htimeout htick hinvalid)
  · intro hasked
    by_contra hmany
    exact h (.export hasked hS (by omega))

end Settings

namespace Program

variable {s : Settings} {S : List Scenario} {t : Timing}

theorem scenarios_eq_ok_iff : scenarios s = .ok S ↔ s.scenarios? = some S := by
  unfold scenarios Settings.scenarios?
  split
  · simp
  · cases Scenario.ofName? s.scenario <;> simp

theorem seconds_eq_ok_iff {o : OptionName} {value : Float} {d : Span} :
    seconds o value = .ok d ↔ Span.ofSeconds value = .ok d := by
  unfold seconds
  cases Span.ofSeconds value with
  | ok d' =>
    constructor
    · intro h
      exact congrArg Except.ok (Except.ok.inj h)
    · intro h
      exact congrArg Except.ok (Except.ok.inj h)
  | error e =>
    constructor
    · intro h
      cases h
    · intro h
      cases h

/-- Once both durations are read, the timing decides. -/
theorem config_of_seconds (hseeds : s.seeds ≠ 0) (htimeout : Span.ofSeconds s.timeout = .ok t.timeout)
    (htick : Span.ofSeconds s.tickDuration = .ok t.tick) :
    config s = match t.validate with
      | .ok () => .ok (s.configure t {})
      | .error e => .error (.invalidConfig (.ofTiming e)) := by
  have hvalidate : (s.configure t {}).validate = t.validate.mapError .ofTiming := by
    rw [Config.validate, Settings.timing_configure]
  have hconfig : s.configure t {} =
      let c := ((({} : Config).withTimeout t.timeout).withTick t.tick).withEarlyExit s.exitEarly
      if s.enableVisualization then c.withVisualization s.layout else c := rfl
  unfold config
  rw [if_neg hseeds, seconds_eq_ok_iff.mpr htimeout, seconds_eq_ok_iff.mpr htick]
  dsimp only [bind, Except.bind]
  rw [← hconfig, hvalidate]
  cases t.validate <;> rfl

theorem config_eq_ok_iff {c : Config} : config s = .ok c ↔
    s.seeds ≠ 0 ∧ ∃ t : Timing, Span.ofSeconds s.timeout = .ok t.timeout ∧
      Span.ofSeconds s.tickDuration = .ok t.tick ∧ t.Valid ∧ c = s.configure t {} := by
  constructor
  · intro h
    have hseeds : s.seeds ≠ 0 := by
      intro hnone
      rw [config, if_pos hnone] at h
      cases h
    -- both durations were read, or the first that could not be would have been the end of it
    have hread : ∃ timeout tick, Span.ofSeconds s.timeout = .ok timeout ∧
        Span.ofSeconds s.tickDuration = .ok tick := by
      rw [config, if_neg hseeds] at h
      obtain ⟨timeout, htimeout, hrest⟩ := bind_eq_ok_iff.mp h
      obtain ⟨tick, htick, -⟩ := bind_eq_ok_iff.mp hrest
      exact ⟨timeout, tick, seconds_eq_ok_iff.mp htimeout, seconds_eq_ok_iff.mp htick⟩
    obtain ⟨timeout, tick, htimeout, htick⟩ := hread
    refine ⟨hseeds, ⟨timeout, tick⟩, htimeout, htick, ?_⟩
    rw [config_of_seconds (t := ⟨timeout, tick⟩) hseeds htimeout htick] at h
    rw [← Timing.validate_eq_ok_iff]
    split at h
    · rename_i hvalidate
      exact ⟨hvalidate, (Except.ok.inj h).symm⟩
    · cases h
  · rintro ⟨hseeds, t, htimeout, htick, hvalid, rfl⟩
    rw [config_of_seconds hseeds htimeout htick, Timing.validate_eq_ok_iff.mpr hvalid]

theorem exports_many_iff (s : Settings) (S : List Scenario) :
    (s.exportPath.isSome && (decide (1 < S.length) || decide (1 < s.seeds))) = true ↔
      s.exportPath ≠ none ∧ (1 < S.length ∨ 1 < s.seeds) := by
  rw [Bool.and_eq_true, Option.isSome_iff_ne_none, Bool.or_eq_true, decide_eq_true_iff,
    decide_eq_true_iff]

/-- The plan of settings that are not at fault. -/
theorem plan_eq_ok_iff {p : Plan} :
    plan s = .ok p ↔ ∃ S t, s.Selects S t ∧ p = ⟨S, s.configure t {}⟩ := by
  constructor
  · intro h
    obtain ⟨S, hS, h⟩ := bind_eq_ok_iff.mp h
    obtain ⟨c, hc, h⟩ := bind_eq_ok_iff.mp h
    obtain ⟨hseeds, t, htimeout, htick, hvalid, rfl⟩ := config_eq_ok_iff.mp hc
    split at h
    · cases h
    · rename_i hsingle
      refine ⟨S, t, ⟨scenarios_eq_ok_iff.mp hS, hseeds, htimeout, htick, hvalid, ?_⟩,
        (Except.ok.inj h).symm⟩
      -- an export is refused unless there is a single check to make
      intro hasked
      by_contra hmany
      exact hsingle ((exports_many_iff s S).mpr ⟨hasked, by omega⟩)
  · rintro ⟨S, t, h, rfl⟩
    have hconfig := config_eq_ok_iff.mpr ⟨h.seeds, t, h.timeout, h.tick, h.valid, rfl⟩
    apply bind_eq_ok_iff.mpr
    refine ⟨S, scenarios_eq_ok_iff.mpr h.scenarios, ?_⟩
    apply bind_eq_ok_iff.mpr
    refine ⟨s.configure t {}, hconfig, ?_⟩
    rw [if_neg]
    · rfl
    · intro hrefused
      obtain ⟨hasked, hmany⟩ := (exports_many_iff s S).mp hrefused
      obtain ⟨hone, honly⟩ := h.single hasked
      omega

end Program

namespace Session

variable {s : Settings} {config : Config} {pairs : List (UInt64 × Scenario)} {session : Session}

theorem passed_iff (r : ScenarioResult) : r.passed = true ↔ r.outcome.kind = r.scenario.expected :=
  beq_iff_eq

/-- The session has checked these scenarios under these seeds. Its results are those of the checks alone, and it has
counted the ones that differ from what is expected. -/
structure Tallies (s : Settings) (config : Config) (pairs : List (UInt64 × Scenario)) (session : Session) :
    Prop where
  settings : session.settings = s
  finds : List.Forall₂ (fun pair r => ScenarioCheck.Finds config pair.1 pair.2 r) pairs session.results
  failed : session.failed = session.results.countP fun r => r.outcome.kind ≠ r.scenario.expected

theorem Tallies.note (h : Tallies s config pairs session) {seed : UInt64} {scenario : Scenario}
    {check : ScenarioCheck} (hcheck : ScenarioCheck.Finds config seed scenario check.result) :
    Tallies s config (pairs ++ [(seed, scenario)]) (session.note check) := by
  have hresults : (session.note check).results = session.results ++ [check.result] := List.map_append
  refine ⟨h.settings, ?_, ?_⟩
  · rw [hresults]
    exact List.rel_append h.finds (.cons hcheck .nil)
  · rw [hresults, List.countP_append, ← h.failed, List.countP_singleton, Session.note]
    dsimp only
    -- the counter moves on exactly with a result that the list counts
    by_cases hpassed : check.result.passed = true
    · rw [if_pos hpassed, if_neg]
      · rfl
      · rw [decide_eq_true_iff]
        exact not_not_intro ((passed_iff check.result).mp hpassed)
    · rw [if_neg hpassed, if_pos]
      rw [decide_eq_true_iff]
      exact fun hkind => hpassed ((passed_iff check.result).mpr hkind)

/-- All scenarios under one seed. -/
theorem Tallies.exists_runScenarios (hvalid : config.timing.Valid)
    (hroom : config.timing.timeout.nanos + config.timing.tick.nanos ≤ 2 ^ 64)
    (h : Tallies s config pairs session) (recorded : Option RunId) (seed : UInt64) (S : List Scenario) :
    ∃ session', session.runScenarios config recorded seed S = some session' ∧
      Tallies s config (pairs ++ S.map fun c => (seed, c)) session' := by
  induction S generalizing pairs session with
  | nil =>
    rw [List.map_nil, List.append_nil]
    exact ⟨session, rfl, h⟩
  | cons scenario S ih =>
    obtain ⟨r, hr⟩ := ScenarioCheck.exists_finds hvalid hroom seed scenario
    obtain ⟨check, hcheck, rfl⟩ := hr.alone session.settings.rerun recorded
    obtain ⟨session', hrun, htallies⟩ := ih (h.note hr)
    rw [List.append_assoc] at htallies
    refine ⟨session', ?_, htallies⟩
    rw [runScenarios, List.foldlM_cons, hcheck]
    exact hrun

/-- One seed after the other. -/
theorem Tallies.exists_foldlM (hvalid : config.timing.Valid)
    (hroom : config.timing.timeout.nanos + config.timing.tick.nanos ≤ 2 ^ 64)
    (h : Tallies s config pairs session) (recorded : Option RunId) (S : List Scenario) (seeds : List UInt64) :
    ∃ session', seeds.foldlM (fun session seed => session.runScenarios config recorded seed S) session =
        some session' ∧
      Tallies s config (pairs ++ seeds ×ˢ S) session' := by
  induction seeds generalizing pairs session with
  | nil =>
    rw [List.nil_product, List.append_nil]
    exact ⟨session, rfl, h⟩
  | cons seed seeds ih =>
    obtain ⟨session₁, hfirst, h₁⟩ := h.exists_runScenarios hvalid hroom recorded seed S
    obtain ⟨session', hrest, htallies⟩ := ih h₁
    rw [List.append_assoc] at htallies
    rw [List.product_cons]
    refine ⟨session', ?_, htallies⟩
    rw [List.foldlM_cons, hfirst]
    exact hrest

/-- A session makes its checks one after the other. -/
theorem exists_run {p : Program.Plan} (hvalid : p.config.timing.Valid)
    (hroom : p.config.timing.timeout.nanos + p.config.timing.tick.nanos ≤ 2 ^ 64) (hseed : s.seed ≠ 0)
    (clockSeed : UInt64) (id : RunId) :
    ∃ session, run s p clockSeed id = some session ∧
      Tallies s p.config (Program.seedsFrom s.seed s.seeds ×ˢ p.scenarios) session := by
  have hempty : Tallies s p.config [] { settings := s } := ⟨rfl, .nil, rfl⟩
  rw [run, if_neg hseed]
  exact hempty.exists_foldlM hvalid hroom _ p.scenarios (Program.seedsFrom s.seed s.seeds)

/-- What is said of a result in a summary. -/
structure Entry (j : Json) (r : ScenarioResult) : Prop where
  scenario : j.member? "scenario" = some (.text r.scenario.name)
  seed : j.member? "seed" = some (.nat r.seed.toNat)
  expected : j.member? "expected" = some r.scenario.expected.json
  outcome : j.member? "outcome" = some r.outcome.kind.json
  passed : j.member? "passed" = some (.bool (r.outcome.kind = r.scenario.expected))
  ticks : j.member? "ticks" = some (.nat r.ticks)
  time : j.member? "time_secs" = some (.float r.elapsed.seconds)
  reason : j.member? "failure_reason" = some
    (if r.outcome.kind = r.scenario.expected then .null
      else .text (s!"expected {r.scenario.expected.name}, got {r.outcome.kind.name}" ++
        r.outcome.reason?.elim "" fun reason => s!": {reason}"))

theorem entry_resultJson (r : ScenarioResult) : Entry (resultJson r) r := by
  have hreason : (resultJson r).member? "failure_reason" = some (Json.textOrNull r.failureReason?) := rfl
  refine ⟨rfl, rfl, rfl, rfl, ?_, rfl, rfl, ?_⟩
  · have hmember : (resultJson r).member? "passed" = some (.bool r.passed) := rfl
    rw [hmember, Bool.eq_iff_iff.mpr ((passed_iff r).trans decide_eq_true_iff.symm)]
  · rw [hreason, ScenarioResult.failureReason?]
    by_cases hkind : r.outcome.kind = r.scenario.expected
    · rw [if_pos hkind, if_pos ((passed_iff r).mpr hkind)]
      rfl
    · rw [if_neg hkind, if_neg fun hpassed => hkind ((passed_iff r).mp hpassed)]
      cases r.outcome.reason? <;> rfl

/-- What the summary and the report of a session say of its results. -/
structure Accounts (session : Session) (passed failed : ℕ) : Prop where
  total : session.summary.member? "total" = some (.nat session.results.length)
  passes : session.summary.member? "passed" = some (.nat passed)
  failures : session.summary.member? "failed" = some (.nat failed)
  entries : ∃ es, session.summary.member? "results" = some (.list es) ∧ List.Forall₂ Entry es session.results
  add : passed + failed = session.results.length
  count : failed = session.results.countP fun r => r.outcome.kind ≠ r.scenario.expected
  printed : ∀ filter written, (session.report filter written).output =
    if session.settings.json then session.summary.pretty ++ "\n" else ""
  exit : ∀ filter written, (session.report filter written).exit = if failed = 0 then 0 else 1

theorem Tallies.accounts (h : Tallies s config pairs session) :
    session.Accounts session.passed session.failed := by
  have hlength : session.results.length = session.total := List.length_map _
  have hle : session.failed ≤ session.total := by
    rw [h.failed, ← hlength]
    exact List.countP_le_length
  refine
    { total := by rw [hlength]; rfl
      passes := rfl
      failures := rfl
      entries := ⟨_, rfl, ?_⟩
      add := by rw [hlength, passed, Nat.sub_add_cancel hle]
      count := h.failed
      printed := fun _ _ => rfl
      exit := ?_ }
  · rw [List.forall₂_map_left_iff, List.forall₂_same]
    exact fun r _ => entry_resultJson r
  · intro filter written
    rw [report]
    dsimp only
    split
    · rw [if_neg (by omega)]
    · rw [if_pos (by omega)]

end Session

namespace Program

variable {s : Settings} {S : List Scenario} {t : Timing}

theorem length_seedsFrom (base : UInt64) (count : ℕ) : (seedsFrom base count).length = count := by
  rw [seedsFrom, List.length_map, List.length_range]

theorem getElem?_seedsFrom (base : UInt64) {i count : ℕ} (hi : i < count) :
    ∃ seed, (seedsFrom base count)[i]? = some seed ∧ seed.toNat = (base.toNat + i) % 2 ^ 64 := by
  refine ⟨base + UInt64.ofNat i, ?_, ?_⟩
  · rw [seedsFrom, List.getElem?_map, List.getElem?_range hi]
    rfl
  · rw [UInt64.toNat_add, UInt64.toNat_ofNat', Nat.add_mod_mod]

/-- What the program has come to when its recording is to be saved. -/
abbrev Started := ProgramReport ⊕ Session × Journal.Filter

namespace Started

/-- The checks that were made. -/
def checks (started : Started) : List ScenarioCheck := started.elim (fun _ => []) fun x => x.1.checks

/-- The recording that is to be saved. -/
def recording? (started : Started) : Option (String × RunExport) :=
  started.elim (fun _ => none) fun x => x.1.recording?

/-- The report in the end. -/
def report (started : Started) (written : Except SaveError Unit) : ProgramReport :=
  started.elim id fun x => x.1.report x.2 written

end Started

/-- **Accounts of the program.** The arguments are any that can be read, with a base seed that is not zero.
If their settings are at fault, the program ends with code 2, and has checked and saved nothing. Otherwise they
select some scenarios and a timing, and unless the clock can run over the program checks each of these scenarios
under each seed, all scenarios under one seed first. The seeds follow the base seed and wrap around. Each check
finds what a check of that scenario alone finds under that seed, recorded and shown or not. The summary counts
the results, and the exit code is 0 or 1 by these counts. -/
theorem start_accounts {arguments : List String}
    (harguments : Settings.ofArguments arguments = .ok s) (hseed : s.seed ≠ 0)
    (given : Option String) (clockSeed : UInt64) (id : RunId) :
    (s.Faulty → ∃ started : Started, start arguments given clockSeed id = some started ∧
      started.checks = [] ∧ started.recording? = none ∧
      ∀ written, (started.report written).exit = 2) ∧
    (¬ s.Faulty → ∃ S t, s.Selects S t ∧ (t.timeout.nanos + t.tick.nanos ≤ 2 ^ 64 →
      ∃ session, start arguments given clockSeed id = some (.inr (session, filter s given)) ∧
        session.settings = s ∧ session.results.length = S.length * s.seeds ∧
        (∀ (i j : ℕ) (hj : j < S.length), i < s.seeds → ∃ seed r,
          seed.toNat = (s.seed.toNat + i) % 2 ^ 64 ∧
            session.results[i * S.length + j]? = some r ∧
            ScenarioCheck.Finds (s.configure t {}) seed S[j] r) ∧
        ∃ passed failed, session.Accounts passed failed)) := by
  constructor
  · -- whichever fault counts, there is no plan
    intro hfaulty
    cases hplan : plan s with
    | ok p =>
      obtain ⟨S, t, hselects, -⟩ := plan_eq_ok_iff.mp hplan
      exact absurd hfaulty hselects.not_faulty
    | error r =>
      refine ⟨.inl (refused s (filter s given) r), ?_, rfl, rfl, fun _ => rfl⟩
      rw [start, harguments]
      dsimp only
      rw [hplan]
  · intro hsound
    obtain ⟨S, t, hselects⟩ := Settings.exists_selects hsound
    refine ⟨S, t, hselects, ?_⟩
    intro hroom
    have hplan : plan s = .ok ⟨S, s.configure t {}⟩ := plan_eq_ok_iff.mpr ⟨S, t, hselects, rfl⟩
    have htiming := Settings.timing_configure s t {}
    have hvalid : (s.configure t {}).timing.Valid := by
      rw [htiming]
      exact hselects.valid
    have hspace : (s.configure t {}).timing.timeout.nanos + (s.configure t {}).timing.tick.nanos ≤ 2 ^ 64 := by
      rw [htiming]
      exact hroom
    obtain ⟨session, hrun, htallies⟩ :=
      Session.exists_run (p := ⟨S, s.configure t {}⟩) hvalid hspace hseed clockSeed id
    have hfinds := htallies.finds
    refine ⟨session, ?_, htallies.settings, ?_, ?_, _, _, htallies.accounts⟩
    · rw [start, harguments]
      dsimp only
      rw [hplan]
      dsimp only
      rw [hrun]
      rfl
    · rw [← hfinds.length_eq, List.length_product, length_seedsFrom]
      exact Nat.mul_comm _ _
    · -- the result at this place is that of the pair of seed and scenario there
      intro i j hj hi
      obtain ⟨seed, hseedi, hnumber⟩ := getElem?_seedsFrom s.seed hi
      have hpair := getElem?_product (seedsFrom s.seed s.seeds) hj i
      rw [hseedi] at hpair
      obtain ⟨hk, hpair⟩ := List.getElem?_eq_some_iff.mp hpair
      obtain ⟨hlength, hget⟩ := List.forall₂_iff_get.mp hfinds
      have hfound := hget (i * S.length + j) hk (hlength ▸ hk)
      rw [List.get_eq_getElem, List.get_eq_getElem, hpair] at hfound
      exact ⟨seed, _, hnumber, List.getElem?_eq_getElem (hlength ▸ hk), hfound⟩

/-- A scenario by its alias, under the last seed there is and the one after it, which is zero. -/
theorem start_accounts_wrapping :
    let arguments := ["--seeds=2", "--seed", "18446744073709551615", "-S", "drop"]
    ∃ (s : Settings) (session : Session) (r : ScenarioResult),
      Settings.ofArguments arguments = .ok s ∧ s.seed ≠ 0 ∧ ¬ s.Faulty ∧
        start arguments none 0 ⟨0⟩ = some (.inr (session, filter s none)) ∧
        session.results.length = 2 ∧ session.results[1]? = some r ∧
        r.scenario = .transportDrop ∧ r.seed.toNat = 0 := by
  intro arguments
  let s : Settings := { seed := 18446744073709551615, seeds := 2, scenario := "drop" }
  have harguments : Settings.ofArguments arguments = .ok s := rfl
  have hseed : s.seed ≠ 0 := by decide
  have hselects : s.Selects [.transportDrop] ⟨⟨3000000000, by decide⟩, ⟨16666667, by decide⟩⟩ :=
    ⟨by decide, by decide, by decide +kernel, by decide +kernel, by decide, fun h => absurd rfl h⟩
  obtain ⟨S, t, hfound, haccounts⟩ :=
    (start_accounts harguments hseed none 0 ⟨0⟩).2 hselects.not_faulty
  obtain ⟨rfl, rfl⟩ := hselects.unique hfound
  obtain ⟨session, hstart, -, hlength, hentries, -⟩ := haccounts (by decide)
  obtain ⟨seed, r, hnumber, hr, hfinds⟩ := hentries 1 0 (by decide) (by decide)
  refine ⟨s, session, r, harguments, hseed, hselects.not_faulty, hstart, hlength, hr, hfinds.named, ?_⟩
  rw [hfinds.seeded, hnumber]
  decide

end Program

end Lockstep
