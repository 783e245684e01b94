import Lockstep.Proofs.Run.Budget
import Lockstep.Proofs.Trial.Endings

namespace Lockstep

namespace FieldServer

variable {faults : FaultPlan} {d : TickDriver Post}

/-- A server that has not stopped receives the tick that is published. -/
theorem publish_of_running {p : Post} (hstopped : p.server.stopped = false) (tick : TickCommand) :
    ∃ sent, link.publish tick p = (.ok (), ⟨(p.server.receive tick).2, sent⟩) := by
  simp only [link, hstopped, Bool.false_eq_true, ↓reduceIte]
  rcases p.server.receive tick with ⟨_ | world, server⟩
  · exact ⟨p.sent, rfl⟩
  · exact ⟨p.sent ++ [world], rfl⟩

/-- Taking a snapshot does not touch the server. -/
theorem receive_snd (p : Post) : ∃ sent, (link.receive p).2 = ⟨p.server, sent⟩ := by
  rcases p with ⟨server, _ | ⟨world, rest⟩⟩
  · exact ⟨[], rfl⟩
  · exact ⟨rest, rfl⟩

theorem moved_of_running (tick : Span) (hlink : d.link = link)
    (hstopped : d.state.server.stopped = false) :
    ∃ sent, d.moved tick = d.counted tick ⟨(d.state.server.receive (.ofSpan tick)).2, sent⟩ := by
  obtain ⟨sent, hpublish⟩ := publish_of_running hstopped (.ofSpan tick)
  rw [← hlink] at hpublish
  obtain ⟨rest, hreceive⟩ := receive_snd ⟨(d.state.server.receive (.ofSpan tick)).2, sent⟩
  refine ⟨rest, ?_⟩
  rw [TickDriver.moved_of_publish hpublish, hlink, hreceive]

theorem moved_of_stopped (tick : Span) (hlink : d.link = link)
    (hstopped : d.state.server.stopped = true) : d.moved tick = d := by
  have hpublish : d.link.publish (.ofSpan tick) d.state = (.error .noTickReceiver, d.state) := by
    simp only [hlink, link, hstopped, ↓reduceIte]
  exact TickDriver.moved_of_not_publish hpublish

/-- The accounts of a driver that began at time zero on the server of a field. -/
structure Accounts (faults : FaultPlan) (tick : Span) (d : TickDriver Post) : Prop where
  link : d.link = FieldServer.link
  plan : d.state.server.faults = faults
  clock : d.clock = (·.advance tick)^[d.ticks] {}
  /-- A server that has stopped has received one tick more than it has served. -/
  ticks : (d.state.server.stopped = false ∧ d.ticks = d.state.server.served) ∨
    (d.state.server.stopped = true ∧ faults.drops d.state.server.served = true ∧
      d.ticks = d.state.server.served + 1)

theorem accounts_driver (field : Field) (faults : FaultPlan) (tick : Span) :
    Accounts faults tick (driver field faults) :=
  ⟨rfl, rfl, rfl, Or.inl ⟨rfl, rfl⟩⟩

theorem Accounts.moved {tick : Span} (h : Accounts faults tick d) :
    Accounts faults tick (d.moved tick) ∧ 0 < (d.moved tick).ticks := by
  obtain ⟨hstopped, hticks⟩ | ⟨hstopped, hdrops, hticks⟩ := h.ticks
  · obtain ⟨sent, hmoved⟩ := moved_of_running tick h.link hstopped
    rw [hmoved]
    have hclock : d.clock.advance tick = (·.advance tick)^[d.ticks + 1] {} := by
      rw [Function.iterate_succ_apply', ← h.clock]
    refine ⟨?_, Nat.succ_pos d.ticks⟩
    by_cases hdrops : d.state.server.faults.drops d.state.server.served = true
    · -- the tick is published, and the server stops
      rw [receive_of_drops hdrops]
      rw [h.plan] at hdrops
      exact ⟨h.link, h.plan, hclock, Or.inr ⟨rfl, hdrops, congrArg (· + 1) hticks⟩⟩
    · rw [receive_of_not_drops (Bool.eq_false_of_not_eq_true hdrops)]
      exact ⟨h.link, h.plan, hclock, Or.inl ⟨hstopped, congrArg (· + 1) hticks⟩⟩
  · rw [moved_of_stopped tick h.link hstopped]
    exact ⟨h, hticks ▸ Nat.succ_pos _⟩

theorem Accounts.nanos_elapsed {timing : Timing} (h : Accounts faults timing.tick d) :
    d.elapsed.nanos = timing.shownAfter d.ticks := by
  have hsince := timing.nanos_since_iterate d.ticks
  rw [← h.clock] at hsince
  exact hsince

end FieldServer

namespace Orchestrator

variable {σ ω : Type} {o : Orchestrator σ ω} {start : Span} {timing : Timing} {p q : Progress σ ω}

/-- The progress that a turn comes to. -/
def Turn.progress : Turn σ ω → Progress σ ω
  | .next p => p
  | .judge p => p
  | .ended _ p => p
  | .broken _ p => p

/-- However a turn ends, it has advanced once. -/
theorem driver_of_turn (o : Orchestrator σ ω) (start tick : Span) (p : Progress σ ω) :
    (o.turn start tick p).progress.driver = p.driver.moved tick := by
  rw [TickDriver.moved]
  rcases hadvance : p.driver.advance tick with ⟨e | w, d⟩
  · rw [turn_of_failure hadvance]
    rfl
  · unfold turn
    rw [hadvance]
    dsimp only
    split
    · rfl
    · split
      · rfl
      · split
        · rfl
        · split <;> rfl

/-- What an advance leads to and every advance keeps holds of the driver after the turns, if there is time
for one. -/
theorem driver_of_turns {kept : TickDriver σ → Prop}
    (hmoved : ∀ d, kept d → kept (d.moved timing.tick)) {limit : ℕ} {ending : Except Panic Outcome}
    (hp : p.elapsed < timing.timeout ∨ kept p.driver) (hfirst : kept (p.driver.moved timing.tick))
    (h : o.turns start timing limit p = some (ending, q)) : kept q.driver := by
  induction limit generalizing p with
  | zero => cases h
  | succ limit ih =>
    rw [turns] at h
    have hturn : kept (o.turn start timing.tick p).progress.driver := by
      rw [driver_of_turn]
      exact hfirst
    split at h
    · -- only a turn that leads to a next one is followed by others
      split at h
      · rename_i hnext
        rw [hnext] at hturn
        exact ih (Or.inr hturn) (hmoved _ hturn) h
      all_goals
        rename_i hends
        rw [hends] at hturn
        cases h
        exact hturn
    · rename_i htime
      cases h
      exact hp.resolve_left htime

/-- A run takes at least one turn. -/
theorem driver_of_run {kept : TickDriver σ → Prop}
    (hmoved : ∀ d, kept d → kept (d.moved timing.tick)) (hvalid : timing.Valid)
    (hfirst : kept (o.driver.moved timing.tick)) {always eventually : SequenceSet}
    {ending : Except Panic Outcome} {o' : Orchestrator σ ω}
    (h : o.run always eventually timing = some (ending, o')) : kept o'.driver := by
  obtain ⟨q, hturns, rfl⟩ := (run_eq_some_iff hvalid).mp h
  have htime : (o.opening always eventually).elapsed < timing.timeout :=
    Nat.lt_of_lt_of_le hvalid.1 hvalid.2
  have hq : kept q.driver := driver_of_turns hmoved (Or.inl htime) hfirst hturns
  cases ending with
  | error panic => exact hq
  | ok outcome => exact hq

end Orchestrator

namespace TrialRunner

/-- **Accounts of a trial.** A trial with a valid timing that comes to an end, in whatever way. The ticks that
were published are those that the field has served, and one more if the field stopped at it. The summary gives
the time that the clock shows, and as many ticks as there are in it. Both are those of the published ticks
exactly if their time fits into the word in which the clock counts nanoseconds. -/
theorem run_accounts {ω : Type} {r r' : TrialRunner} {setup : Setup} {observer : Observer ω}
    {notes notes' : ω} {R : TestRun} (hvalid : r.config.timing.Valid)
    (h : r.run setup observer notes = some (R, notes', r')) :
    let tick := r.config.timing.tick
    ∃ report, R.server = some report ∧ 0 < R.published ∧
      (R.published = report.ticksServed ∨
        (setup.faults.drops report.ticksServed = true ∧ R.published = report.ticksServed + 1)) ∧
      R.elapsed.nanos = r.config.timing.shownAfter R.published ∧
      R.ticks = r.config.timing.shownAfter R.published / tick.nanos ∧
      (R.elapsed.nanos = R.published * tick.nanos ↔ R.published * tick.nanos < 2 ^ 64) ∧
      (R.ticks = R.published ↔ R.published * tick.nanos < 2 ^ 64) := by
  intro tick
  obtain ⟨⟨R₁, notes₁, left⟩, htrial, heq⟩ := Option.map_eq_some_iff.mp h
  obtain ⟨rfl, -⟩ := Prod.mk.inj heq
  rw [Trial.run, Config.validate_eq_ok hvalid] at htrial
  obtain ⟨⟨ending, o⟩, hrun, hreport⟩ := Option.map_eq_some_iff.mp htrial
  obtain ⟨rfl, -⟩ := Prod.mk.inj hreport
  -- every advance keeps the accounts, so they are kept to the end
  have hstart := FieldServer.accounts_driver setup.field setup.faults tick
  let kept (d : TickDriver FieldServer.Post) : Prop :=
    FieldServer.Accounts setup.faults tick d ∧ 0 < d.ticks
  have hkept : kept o.driver :=
    Orchestrator.driver_of_run (fun _ hd => hd.1.moved) hvalid hstart.moved hrun
  obtain ⟨haccounts, hpos⟩ := hkept
  have helapsed : o.driver.elapsed.nanos = r.config.timing.shownAfter o.driver.ticks :=
    haccounts.nanos_elapsed
  have hticks : TestRun.ticksIn o.driver.elapsed tick =
      r.config.timing.shownAfter o.driver.ticks / tick.nanos := by
    rw [TestRun.ticksIn_of_lt hvalid.1 (helapsed ▸ Timing.shownAfter_lt _ _), helapsed]
  refine ⟨_, rfl, hpos, ?_, helapsed, hticks, ?_, ?_⟩
  · obtain ⟨-, hserved⟩ | ⟨-, hdrops, hserved⟩ := haccounts.ticks
    · exact Or.inl hserved
    · exact Or.inr ⟨hdrops, hserved⟩
  · rw [helapsed]
    exact Timing.shownAfter_eq_iff hpos
  · rw [hticks]
    exact Timing.shownAfter_div_eq_iff hvalid hpos

/-- A field that stops at the first tick, under the default configuration. -/
theorem run_accounts_after_drop :
    let r : TrialRunner := { config := {} }
    r.config.timing.Valid ∧
      ∃ R notes r', r.run { field := .ofSeed 0, faults := ⟨some 0⟩ } .idle () = some (R, notes, r') ∧
        R.published = 1 ∧ R.ticks = 1 ∧ R.elapsed.nanos = r.config.timing.tick.nanos := by
  intro r
  have hvalid : r.config.timing.Valid := by decide
  have hrun : ∃ R notes r', r.run { field := .ofSeed 0, faults := ⟨some 0⟩ } .idle () =
      some (R, notes, r') ∧ R.published = 1 := ⟨_, _, _, rfl, rfl⟩
  obtain ⟨R, notes, r', h, hpublished⟩ := hrun
  obtain ⟨-, -, -, -, -, -, helapsed, hticks⟩ := run_accounts hvalid h
  rw [hpublished] at helapsed hticks
  have hfits : 1 * r.config.timing.tick.nanos < 2 ^ 64 := by decide
  exact ⟨hvalid, R, notes, r', h, hpublished, hticks.mpr hfits,
    (helapsed.mpr hfits).trans (Nat.one_mul _)⟩

/-- One tick that takes more time than a word holds. The clock is moved by less than that. -/
theorem run_accounts_long_tick :
    let r : TrialRunner := { config := { timing := ⟨⟨2 ^ 64, by decide⟩, ⟨2 ^ 64, by decide⟩⟩ } }
    r.config.timing.Valid ∧
      ∃ R notes r', r.run { field := .ofSeed 0, faults := ⟨some 0⟩ } .idle () = some (R, notes, r') ∧
        R.published = 1 ∧ R.ticks = 0 ∧ R.elapsed.nanos = 2 ^ 64 - 1 :=
  ⟨by decide, _, _, _, rfl, rfl, rfl, rfl⟩

end TrialRunner

end Lockstep
