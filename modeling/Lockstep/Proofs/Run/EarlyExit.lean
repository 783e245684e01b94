import Lockstep.Proofs.Run.Law
import Lockstep.Proofs.Validation.Progress

namespace Lockstep

namespace Observation

variable {x : Observation}

theorem ends_false_iff : x.Ends false ↔ x.Violated := by
  simp only [Ends, Bool.false_eq_true, false_and, or_false]

end Observation

namespace Orchestrator

variable {σ ω : Type} {o : Orchestrator σ ω}

/-- The same orchestrator, with or without an early exit. -/
def withEarlyExit (o : Orchestrator σ ω) (earlyExit : Bool) : Orchestrator σ ω := { o with earlyExit }

theorem HasRoom.withEarlyExit {timing : Timing} (h : o.HasRoom timing) (earlyExit : Bool) :
    (o.withEarlyExit earlyExit).HasRoom timing :=
  ⟨h.clock, h.ticks⟩

/-- The run takes `n` ticks, makes the observations `x 1` to `x n` with them, and then ends. -/
def RunObserves (o : Orchestrator σ ω) (always eventually : SequenceSet) (timing : Timing)
    (x : ℕ → Observation) (n : ℕ) (outcome : Outcome) : Prop :=
  ∃ o', o.run always eventually timing = some (.ok outcome, o') ∧
    o'.driver.ticks = o.driver.ticks + n ∧
    o'.notes = o.observer.onFinish outcome (o.observer.told (upTo x n) o.notes)

theorem exists_runObserves (hengine : o.engine = .standard) {timing : Timing} (hvalid : timing.Valid)
    (hroom : o.HasRoom timing) {always eventually a e : SequenceSet} {w : ℕ → Snapshot}
    {d : TickDriver σ} (hdelivers : o.driver.Delivers timing.tick (upTo w timing.fullTicks) d)
    {A E : ℕ → Report}
    (hA : always.history (upTo w timing.fullTicks) = .ok (upTo A timing.fullTicks, a))
    (hE : eventually.history (upTo w timing.fullTicks) = .ok (upTo E timing.fullTicks, e)) :
    ∃ k < timing.fullTicks,
      (∀ i, 0 < i → i ≤ k → ¬ (Observation.ofReports timing.tick w A E i).Ends o.earlyExit) ∧
      ((Observation.ofReports timing.tick w A E (k + 1)).Ends o.earlyExit ∨
        k + 1 = timing.fullTicks) ∧
      (w (k + 1)).tick = o.driver.ticks + (k + 1) ∧
      o.RunObserves always eventually timing (.ofReports timing.tick w A E) (k + 1)
        (Observation.ofReports timing.tick w A E (k + 1)).verdict := by
  have hwatch := Panel.watch_of_histories timing.tick hA hE
  obtain ⟨quiet, x, rest, d', hxs, hquiet, hclose, hk, hnumber, hd, hrun⟩ :=
    exists_run_told hengine hvalid hroom hdelivers hwatch
  obtain ⟨hfirst, rfl⟩ := upTo_eq_append_cons hxs
  -- what the run saw before its last tick are the first observations, so only their number matters
  generalize quiet.length = k at hfirst hclose hk hd hrun
  subst hfirst
  rw [length_upTo] at hnumber
  have hticks : d'.ticks = o.driver.ticks + (k + 1) := by
    rw [hd.ticks, length_upTo]
  rw [← upTo_succ] at hrun
  refine ⟨k, hk, ?_, hclose, hnumber.symm.trans hticks, _, hrun, hticks, rfl⟩
  intro i hpos hi
  apply hquiet
  exact mem_upTo.mpr ⟨i, hpos, hi, rfl⟩

/-- A sequence that is extended after it has passed keeps a report that no longer describes it. On the number of
that report it repeats the pass: the early run ends with it, and the full run goes on to wait for the new
predicate in vain. -/
theorem early_unsound_of_extended :
    let timing : Timing := ⟨⟨25, by decide⟩, ⟨10, by decide⟩⟩
    let o : Orchestrator Playback Unit :=
      { driver := { link := Playback.link
                    state := { answers := [.ok (.empty 1 0.0), .ok (.empty 2 0.0),
                      .ok (.empty 3 0.0)] } }
        observer := .idle, notes := () }
    let arrival := Sequence.fresh "arrival" [.total "at one" fun w =>
      if w.tick = 1 then .passed else .pending]
    ∃ report used, arrival.evaluate (.empty 1 0.0) = .ok (report, used) ∧
      let eventually : SequenceSet := ⟨[used.extended (.total "never" fun _ => .pending)]⟩
      ¬ eventually.KeepsReports ∧
        (∃ o', (o.withEarlyExit true).run {} eventually timing = some (.ok .passed, o')) ∧
        ∃ failure o', (o.withEarlyExit false).run {} eventually timing =
          some (.ok (.failedEventually failure), o') := by
  intro timing o arrival
  refine ⟨_, _, rfl, ?_, ⟨_, rfl⟩, _, _, rfl⟩
  intro hkeeps
  have hreports := hkeeps _ List.mem_cons_self 1 _ rfl
  cases hreports.passed_iff.mp rfl

end Orchestrator

end Lockstep
