import Lockstep.Proofs.Run.Calls
import Lockstep.Proofs.Trial.Recording

namespace Lockstep

namespace Orchestrator

variable {σ ω : Type}

/-- The progress without the notes. -/
def Progress.unobserved (p : Progress σ ω) : Progress σ Unit := { p with notes := () }

/-- The turn without the notes. -/
def Turn.unobserved : Turn σ ω → Turn σ Unit
  | .next p => .next p.unobserved
  | .judge p => .judge p.unobserved
  | .ended outcome p => .ended outcome p.unobserved
  | .broken panic p => .broken panic p.unobserved

/-- The orchestrator with nobody to tell. -/
def unobserved (o : Orchestrator σ ω) : Orchestrator σ Unit := { o with observer := .idle, notes := () }

theorem turn_unobserved (o : Orchestrator σ ω) (start tick : Span) (p : Progress σ ω) :
    o.unobserved.turn start tick p.unobserved = (o.turn start tick p).unobserved := by
  rcases hadvance : p.driver.advance tick with ⟨e | w, d⟩
  · rw [turn_of_failure hadvance]
    exact turn_of_failure hadvance
  cases he : o.engine.evaluate p.eventually w with
  | error panic =>
    rw [turn_of_break hadvance (Or.inl he)]
    exact turn_of_break hadvance (Or.inl he)
  | ok eventually =>
    cases ha : o.engine.evaluate p.always w with
    | error panic =>
      rw [turn_of_break hadvance (Or.inr ⟨eventually, he, ha⟩)]
      exact turn_of_break hadvance (Or.inr ⟨eventually, he, ha⟩)
    | ok always =>
      let x : Observation := ⟨d.elapsed.since start, w, eventually.1, always.1⟩
      let c : Panel := ⟨always.2, eventually.2, 0⟩
      have hwatched := turn_of_evaluate (o := o) (p := p) (x := x) (c := c) hadvance he ha rfl rfl
      have hunwatched := turn_of_evaluate (o := o.unobserved) (p := p.unobserved) (x := x) (c := c)
        hadvance he ha rfl rfl
      -- nothing that is decided here depends on what the observer was told
      have hsaw : p.unobserved.saw .idle d x c = (p.saw o.observer d x c).unobserved := rfl
      dsimp only [unobserved] at hunwatched
      rw [hsaw] at hunwatched
      refine hunwatched.trans ?_
      rw [hwatched]
      cases o.engine.check .always x.always with
      | error failure => rfl
      | ok _ =>
        dsimp only
        rw [apply_ite Turn.unobserved]
        rfl

theorem turns_unobserved (o : Orchestrator σ ω) (start : Span) (timing : Timing) (limit : ℕ)
    (p : Progress σ ω) :
    o.unobserved.turns start timing limit p.unobserved =
      (o.turns start timing limit p).map fun x => (x.1, x.2.unobserved) := by
  -- the time that is left is part of the progress, so both take turns for equally long
  induction limit generalizing p with
  | zero => rfl
  | succ limit ih =>
    rw [turns, turns, turn_unobserved]
    have htime : p.unobserved.elapsed < timing.timeout ↔ p.elapsed < timing.timeout := Iff.rfl
    by_cases h : p.elapsed < timing.timeout
    · rw [if_pos (htime.mpr h), if_pos h]
      cases o.turn start timing.tick p with
      | next q => exact ih q
      | judge q => rfl
      | ended outcome q => rfl
      | broken panic q => rfl
    · rw [if_neg (htime.not.mpr h), if_neg h]
      rfl

/-- **Observers do not change a run.** -/
theorem run_unobserved (o : Orchestrator σ ω) (always eventually : SequenceSet) (timing : Timing) :
    o.unobserved.run always eventually timing =
      (o.run always eventually timing).map fun x => (x.1, x.2.unobserved) := by
  have hturns : o.unobserved.turns o.unobserved.driver.elapsed timing maxTurns
      (o.unobserved.opening always eventually) =
        (o.turns o.driver.elapsed timing maxTurns (o.opening always eventually)).map
          fun x => (x.1, x.2.unobserved) :=
    turns_unobserved o o.driver.elapsed timing maxTurns (o.opening always eventually)
  rw [run, run]
  cases timing.validate with
  | error e => rfl
  | ok _ =>
    unfold opening at hturns
    dsimp only
    rw [hturns, Option.map_map, Option.map_map]
    congr 1
    funext x
    rcases x with ⟨panic | outcome, q⟩
    · rfl
    · rfl

end Orchestrator

namespace Trial

variable {ω : Type} {config : Config} {setup : Setup}

/-- A trial reports the same if nobody watches it, and leaves the same display. -/
theorem run_unobserved (config : Config) (display : Display) (setup : Setup) (observer : Observer ω)
    (notes : ω) : run config display setup .idle () =
      (run config display setup observer notes).map fun x => (x.1, (), x.2.2) := by
  have hrun : (orchestrator config setup .idle ()).run setup.always setup.eventually config.timing =
      ((orchestrator config setup observer notes).run setup.always setup.eventually
        config.timing).map fun x => (x.1, x.2.unobserved) :=
    Orchestrator.run_unobserved (orchestrator config setup observer notes) _ _ _
  rw [run, run]
  cases config.validate with
  | error e => rfl
  | ok _ =>
    dsimp only
    rw [hrun, Option.map_map, Option.map_map]
    rfl

/-- A trial whose predicates always reach a verdict comes to an end before its clock runs over. -/
theorem exists_run (hvalid : config.timing.Valid)
    (hroom : config.timing.timeout.nanos + config.timing.tick.nanos ≤ 2 ^ 64)
    (halways : setup.always.IsTotal) (heventually : setup.eventually.IsTotal) (display : Display)
    (observer : Observer ω) (notes : ω) :
    ∃ found, run config display setup observer notes = some found := by
  have htime : (orchestrator config setup observer notes).HasTime config.timing := by
    show 0 + config.timing.timeout.nanos + config.timing.tick.nanos ≤ 2 ^ 64
    rw [Nat.zero_add]
    exact hroom
  obtain ⟨outcome, o, hrun⟩ :=
    Orchestrator.exists_run_of_isTotal rfl (fun _ => htime) halways heventually
  rw [run, Config.validate_eq_ok hvalid]
  dsimp only
  rw [hrun]
  exact ⟨_, rfl⟩

end Trial

namespace ScenarioCheck

/-- The result of a check is that of a trial that nobody watches. -/
theorem result_run (config : Config) (viewer : Bool) (id : Option RunId) (seed : UInt64)
    (scenario : Scenario) : (run config viewer id seed scenario).map (·.result) =
      (Trial.run config (.waiting {}) (scenario.build seed) .idle ()).map
        fun x => ⟨scenario, seed, x.1.outcome, x.1.ticks, x.1.elapsed⟩ := by
  rw [run, Trial.run_unobserved config _ _ (Observer.recorder.pair .exporter), Option.map_map,
    Option.map_map]
  rfl

/-- What every check of a scenario under a seed finds, whether it is recorded and shown or not. -/
structure Finds (config : Config) (seed : UInt64) (scenario : Scenario) (r : ScenarioResult) : Prop where
  named : r.scenario = scenario
  seeded : r.seed = seed
  alone : ∀ (viewer : Bool) (id : Option RunId),
    ∃ check, run config viewer id seed scenario = some check ∧ check.result = r

/-- A scenario has a result under every seed. -/
theorem exists_finds {config : Config} (hvalid : config.timing.Valid)
    (hroom : config.timing.timeout.nanos + config.timing.tick.nanos ≤ 2 ^ 64) (seed : UInt64)
    (scenario : Scenario) : ∃ r, Finds config seed scenario r := by
  obtain ⟨halways, heventually⟩ := scenario.isTotal_build seed
  obtain ⟨⟨R, _, _⟩, hrun⟩ :=
    Trial.exists_run hvalid hroom halways heventually (.waiting {}) .idle ()
  refine ⟨⟨scenario, seed, R.outcome, R.ticks, R.elapsed⟩, rfl, rfl, ?_⟩
  intro viewer id
  have hresult := result_run config viewer id seed scenario
  rw [hrun] at hresult
  exact Option.map_eq_some_iff.mp hresult

end ScenarioCheck

end Lockstep
