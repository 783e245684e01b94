import Lockstep.Proofs.Trial.Endings

namespace Lockstep

namespace Trial

variable {config : Config} {always eventually : SequenceSet}

/-- **Fault prefix law.** Let `R` be the report of a trial without faults and `frames` what it tells its
observers, one observation for each tick. A field that stops after `n` ticks makes no difference as long
as there are no more than `n` frames. Otherwise the trial breaks off at tick `n + 1`, when the field
has answered `n` ticks, and its observers are told the first `n` frames and then that outcome: nothing
that the predicates would have said later on counts. -/
theorem run_dropAfter (hvalid : config.timing.Valid)
    (hroom : config.timing.timeout.nanos + config.timing.tick.nanos ≤ 2 ^ 64) (field : Field)
    (halways : always.IsTotal) (heventually : eventually.IsTotal) :
    ∃ (R : TestRun) (frames : List Observation),
      R.ticks = frames.length ∧ R.published = frames.length ∧ 0 < frames.length ∧
      (∀ {ω : Type} (display : Display) (observer : Observer ω) (notes : ω),
        run config display { field, always, eventually } observer notes =
          some (R, observer.onFinish R.outcome (observer.told frames notes),
            displayAfter config display)) ∧
      ∀ n, (frames.length ≤ n → ∀ {ω : Type} (display : Display) (observer : Observer ω) (notes : ω),
          run config display { field, faults := ⟨some n⟩, always, eventually } observer notes =
            run config display { field, always, eventually } observer notes) ∧
        (n < frames.length → ∃ F : TestRun,
          F.outcome = .failedException (.transport .noWorldProducer) ∧ F.ticks = n + 1 ∧
          F.published = n + 1 ∧ F.elapsed.nanos = (n + 1) * config.timing.tick.nanos ∧
          F.server.map (·.ticksServed) = some n ∧
          ∀ {ω : Type} (display : Display) (observer : Observer ω) (notes : ω),
            run config display { field, faults := ⟨some n⟩, always, eventually } observer notes =
              some (F, observer.onFinish F.outcome (observer.told (frames.take n) notes),
                displayAfter config display)) := by
  let w := FieldServer.answer { field } (.ofSpan config.timing.tick)
  obtain ⟨xs, c, hwatch⟩ := Panel.watch_of_isTotal config.timing.tick (c := ⟨always, eventually, 0⟩)
    halways heventually (upTo w config.timing.fullTicks)
  obtain ⟨k, quiet, x, rest, c₁, c₂, hk, -, rfl, hseen, hobserve, hquiet, hclose⟩ :=
    Panel.exists_closing_upTo config.earlyExit hwatch (Timing.fullTicks_pos hvalid)
  -- both the trial without faults and one whose fault comes too late end with `x`
  have hrun {faults : FaultPlan} (hfaults : faults.Allows (quiet.length + 1)) {ω : Type}
      (display : Display) (observer : Observer ω) (notes : ω) :=
    run_of_closing hvalid hroom hseen hquiet hk hfaults hobserve hclose display observer notes
  have hlen : (quiet ++ [x]).length = quiet.length + 1 := by
    rw [List.length_append, List.length_singleton]
  rw [← hlen] at hrun
  refine ⟨_, quiet ++ [x], rfl, rfl, by omega, hrun (FaultPlan.allows_none _), ?_⟩
  intro n
  refine ⟨?_, ?_⟩
  · intro hn ω display observer notes
    rw [hrun (FaultPlan.allows_some_iff.mpr hn), hrun (FaultPlan.allows_none _)]
  · intro hn
    have hle : n ≤ quiet.length := by omega
    -- the run that breaks off has seen the same as the run without faults had by then
    obtain ⟨c₀, hcut⟩ := along_take hseen n
    rw [take_upTo hle] at hcut
    have hfit := Timing.mul_lt_of_le_fullTicks hvalid (show n + 1 ≤ config.timing.fullTicks by omega)
    have hword : (n + 1) * config.timing.tick.nanos < 2 ^ 64 := by omega
    refine ⟨.afterTicks (.failedException (.transport .noWorldProducer)) config.timing.tick (n + 1)
      (FieldServer.afterTicks { field } (.ofSpan config.timing.tick) n).report, rfl, rfl, rfl,
      Span.nanos_times hword, ?_, ?_⟩
    · have hserved := FieldServer.served_afterTicks { field } (.ofSpan config.timing.tick) n
      rw [Nat.zero_add] at hserved
      exact congrArg some hserved
    · rw [List.take_append_of_le_length hle]
      exact run_of_cut hvalid hroom hcut (fun y hy => hquiet y (List.mem_of_mem_take hy)) (by omega)

/-- A field that answers no tick at all, under the default configuration. -/
theorem run_dropAfter_at_once :
    let config : Config := {}
    let eventually : SequenceSet := ⟨[.fresh "never" [.total "waits" fun _ => .pending]]⟩
    config.timing.Valid ∧ config.timing.timeout.nanos + config.timing.tick.nanos ≤ 2 ^ 64 ∧
      eventually.IsTotal ∧
      ∃ F : TestRun, F.outcome = .failedException (.transport .noWorldProducer) ∧ F.ticks = 1 ∧
        F.server.map (·.ticksServed) = some 0 ∧
        run config (.waiting {}) { field := .ofSeed 0, faults := ⟨some 0⟩, eventually } .recorder {} =
          some (F, { finished := #[F.outcome] }, .waiting {}) := by
  intro config eventually
  have hvalid : config.timing.Valid := by decide
  have hroom : config.timing.timeout.nanos + config.timing.tick.nanos ≤ 2 ^ 64 := by decide
  have halways : SequenceSet.IsTotal {} := SequenceSet.isTotal_empty
  have heventually : eventually.IsTotal :=
    SequenceSet.isTotal_fresh (List.forall_mem_singleton.mpr (Predicate.isTotal_total _ _))
  obtain ⟨R, frames, -, -, hpos, -, hlaw⟩ := run_dropAfter hvalid hroom (.ofSeed 0) halways heventually
  obtain ⟨F, houtcome, hticks, -, -, hserved, hrun⟩ := (hlaw 0).2 hpos
  exact ⟨hvalid, hroom, heventually, F, houtcome, hticks, hserved, hrun _ _ _⟩

end Trial

end Lockstep
