import Lockstep.Proofs.Field.Server
import Lockstep.Proofs.Run.Turns
import Lockstep.Trial.Basic

/-!
How trials end. A trial reports what the run of its orchestrator came to (`run_eq`), and the run ends by
an observation that closes it (`run_of_closing`), by a tick that the field does not answer (`run_of_cut`),
or by a predicate that breaks off (`run_of_break`).
-/

namespace Lockstep

/-- The report of a trial in which this many ticks were published. -/
def TestRun.afterTicks (outcome : Outcome) (tick : Span) (n : ℕ) (server : ServerReport) : TestRun :=
  { outcome, ticks := n, published := n, elapsed := tick.times n, server := some server }

/-- The ticks in a time that fits into a word. -/
theorem TestRun.ticksIn_of_lt {elapsed tick : Span} (htick : 0 < tick.nanos)
    (h : elapsed.nanos < 2 ^ 64) : ticksIn elapsed tick = elapsed.nanos / tick.nanos := by
  have hle : elapsed.nanos / tick.nanos ≤ elapsed.nanos := Nat.div_le_self _ _
  have hmax : UInt64.size - 1 = 2 ^ 64 - 1 := rfl
  rw [ticksIn, if_neg (by omega)]
  omega

theorem TestRun.ticksIn_times {tick : Span} {n : ℕ} (htick : 0 < tick.nanos)
    (hn : n * tick.nanos < 2 ^ 64) : TestRun.ticksIn (tick.times n) tick = n := by
  have hle : n * 1 ≤ n * tick.nanos := Nat.mul_le_mul_left n htick
  have hmax : UInt64.size - 1 = 2 ^ 64 - 1 := rfl
  rw [ticksIn, if_neg (by omega), Span.nanos_times hn, Nat.mul_div_cancel n htick]
  omega

theorem Config.validate_eq_ok {config : Config} (h : config.timing.Valid) :
    config.validate = .ok () := by
  rw [validate, Timing.validate_eq_ok_iff.mpr h]
  rfl

namespace Trial

/-- The display when a trial has ended. -/
def displayAfter (config : Config) (display : Display) : Display :=
  if config.visualization then display.close else display

variable {config : Config} {field : Field} {always eventually : SequenceSet} {ω : Type}

/-- A trial reports what the run of its orchestrator came to. -/
theorem run_eq (hvalid : config.timing.Valid) (display : Display) {setup : Setup}
    {observer : Observer ω} {notes : ω} {ending : Except Panic Outcome}
    {o : Orchestrator FieldServer.Post ω} {n : ℕ}
    (hrun : (orchestrator config setup observer notes).run setup.always setup.eventually
      config.timing = some (ending, o))
    (hclock : o.driver.clock.count.toNat = n * config.timing.tick.nanos)
    (hticks : o.driver.ticks = n) :
    run config display setup observer notes =
      some (.afterTicks (Bridge.outcome ending) config.timing.tick n o.driver.state.server.report,
        o.notes, displayAfter config display) := by
  have hword : n * config.timing.tick.nanos < 2 ^ 64 := by
    rw [← hclock]
    exact o.driver.clock.count.toNat_lt
  have helapsed : o.driver.elapsed = config.timing.tick.times n := by
    apply Span.ext
    rw [Span.nanos_times hword]
    exact hclock
  rw [run, Config.validate_eq_ok hvalid]
  dsimp only
  rw [hrun]
  simp only [Option.map_some, helapsed, TestRun.ticksIn_times hvalid.1 hword, hticks,
    TestRun.afterTicks, displayAfter]
  -- the outcome is the same with a display and without
  by_cases hshown : config.visualization = true
  · simp only [hshown, ↓reduceIte, Bridge.visualized]
  · simp only [hshown, ↓reduceIte, Bool.false_eq_true]

variable (hvalid : config.timing.Valid)
  (hroom : config.timing.timeout.nanos + config.timing.tick.nanos ≤ 2 ^ 64)

include hvalid hroom in
/-- The counter and the clock of a driver that started a trial. -/
theorem ticks_clock_of_delivers {faults : FaultPlan} {w : ℕ → Snapshot} {n : ℕ}
    {d : TickDriver FieldServer.Post}
    (h : (FieldServer.driver field faults).Delivers config.timing.tick (upTo w n) d)
    (hn : n ≤ config.timing.fullTicks) :
    d.ticks = n ∧ d.clock.count.toNat = n * config.timing.tick.nanos := by
  have hlt := Timing.mul_lt_of_le_fullTicks hvalid hn
  have hclock := h.clock (by
    rw [length_upTo]
    show 0 + n * config.timing.tick.nanos < 2 ^ 64
    omega)
  rw [length_upTo] at hclock
  refine ⟨?_, hclock.trans (Nat.zero_add _)⟩
  rw [h.ticks, length_upTo]
  exact Nat.zero_add n

include hvalid hroom in
/-- The last of the ticks that a trial without a fault takes, and the driver around it. -/
theorem exists_advance {faults : FaultPlan} {n : ℕ} (hfaults : faults.Allows (n + 1))
    (hlt : n < config.timing.fullTicks) :
    ∃ d₁ d₂, (FieldServer.driver field faults).Delivers config.timing.tick
        (upTo (FieldServer.answer { field } (.ofSpan config.timing.tick)) n) d₁ ∧
      d₁.advance config.timing.tick =
        (.ok (FieldServer.answer { field } (.ofSpan config.timing.tick) (n + 1)), d₂) ∧
      d₂.ticks = n + 1 ∧ d₂.clock.count.toNat = (n + 1) * config.timing.tick.nanos ∧
      d₂.state.server.report =
        (FieldServer.afterTicks { field } (.ofSpan config.timing.tick) (n + 1)).report := by
  obtain ⟨d₂, hdelivers, hstate⟩ := FieldServer.driver_delivers field config.timing.tick hfaults
  obtain ⟨hticks, hclock⟩ := ticks_clock_of_delivers hvalid hroom hdelivers hlt
  have hreport : d₂.state.server.report =
      (FieldServer.afterTicks { field } (.ofSpan config.timing.tick) (n + 1)).report := by
    rw [hstate]
    rfl
  rw [upTo_succ] at hdelivers
  obtain ⟨d₁, hd₁, hlast⟩ := hdelivers.split
  cases hlast with
  | cons hadvance hnil =>
    cases hnil
    exact ⟨d₁, d₂, hd₁, hadvance, hticks, hclock, hreport⟩

section

variable {n : ℕ} {quiet : List Observation} {c₁ : Panel}
  (hwatch : (⟨always, eventually, 0⟩ : Panel).watch config.timing.tick
    (upTo (FieldServer.answer { field } (.ofSpan config.timing.tick)) n) = .ok (quiet, c₁))
  (hquiet : ∀ y ∈ quiet, ¬ y.Ends config.earlyExit) (hlt : n < config.timing.fullTicks)

include hvalid hroom hwatch hquiet hlt

/-- A trial that its field answers long enough ends with the observation that closes its run. -/
theorem run_of_closing {faults : FaultPlan} (hfaults : faults.Allows (n + 1)) {x : Observation}
    {c₂ : Panel} (hobserve : c₁.observe config.timing.tick
      (FieldServer.answer { field } (.ofSpan config.timing.tick) (n + 1)) = .ok (x, c₂))
    (hclose : x.Ends config.earlyExit ∨ n + 1 = config.timing.fullTicks)
    (display : Display) (observer : Observer ω) (notes : ω) :
    run config display { field, faults, always, eventually } observer notes =
      some (.afterTicks x.verdict config.timing.tick (n + 1)
        (FieldServer.afterTicks { field } (.ofSpan config.timing.tick) (n + 1)).report,
        observer.onFinish x.verdict (observer.told (quiet ++ [x]) notes),
        displayAfter config display) := by
  let o := orchestrator config { field, faults, always, eventually } observer notes
  have ho : o.HasRoom config.timing := .of_fresh hvalid hroom rfl rfl
  obtain ⟨d₁, d₂, hdelivers, hadvance, hticks, hclock, hreport⟩ :=
    exists_advance hvalid hroom hfaults hlt
  have hrun := Orchestrator.run_of_closing (o := o) rfl hvalid ho hdelivers hadvance hwatch hobserve
    hquiet (by rw [length_upTo]; exact hlt) (by rw [length_upTo]; exact hclose)
  rw [run_eq hvalid display hrun hclock hticks, hreport]
  rfl

/-- A trial whose field stops to answer before anything ends its run breaks off. -/
theorem run_of_cut (display : Display) (observer : Observer ω) (notes : ω) :
    run config display { field, faults := ⟨some n⟩, always, eventually } observer notes =
      some (.afterTicks (.failedException (.transport .noWorldProducer)) config.timing.tick (n + 1)
        (FieldServer.afterTicks { field } (.ofSpan config.timing.tick) n).report,
        observer.onFinish (.failedException (.transport .noWorldProducer))
          (observer.told quiet notes),
        displayAfter config display) := by
  let o := orchestrator config { field, faults := ⟨some n⟩, always, eventually } observer notes
  have ho : o.HasRoom config.timing := .of_fresh hvalid hroom rfl rfl
  obtain ⟨d₁, hdelivers, hstate⟩ := FieldServer.driver_delivers field config.timing.tick
    (FaultPlan.allows_some_iff.mpr (le_refl n))
  obtain ⟨hticks, hclock⟩ := ticks_clock_of_delivers hvalid hroom hdelivers (Nat.le_of_lt hlt)
  have hdrops : (⟨some n⟩ : FaultPlan).drops n = true := decide_eq_true (le_refl n)
  have hadvance := FieldServer.advance_of_drops field hdrops hdelivers.link hstate
  have hrun := Orchestrator.run_of_cut (o := o) rfl hvalid ho hdelivers hadvance hwatch hquiet
    (by rw [length_upTo]; exact hlt)
  -- the tick without an answer moves the clock as well
  have hfit := Timing.mul_lt_of_le_fullTicks hvalid (show n + 1 ≤ config.timing.fullTicks from hlt)
  have hnext : (n + 1) * config.timing.tick.nanos =
      n * config.timing.tick.nanos + config.timing.tick.nanos := Nat.succ_mul _ _
  have hcount := Clock.toNat_count_advance (c := d₁.clock) (s := config.timing.tick) (by omega)
  rw [hclock, ← hnext] at hcount
  rw [run_eq hvalid display hrun hcount (congrArg (· + 1) hticks)]
  rfl

/-- A trial in which a predicate breaks off reports that, and its observers are not told of the tick. -/
theorem run_of_break {faults : FaultPlan} (hfaults : faults.Allows (n + 1)) {panic : Panic}
    (hobserve : c₁.observe config.timing.tick
      (FieldServer.answer { field } (.ofSpan config.timing.tick) (n + 1)) = .error panic)
    (display : Display) (observer : Observer ω) (notes : ω) :
    run config display { field, faults, always, eventually } observer notes =
      some (.afterTicks (.failedException (.ofPanic panic)) config.timing.tick (n + 1)
        (FieldServer.afterTicks { field } (.ofSpan config.timing.tick) (n + 1)).report,
        observer.told quiet notes, displayAfter config display) := by
  let o := orchestrator config { field, faults, always, eventually } observer notes
  have ho : o.HasRoom config.timing := .of_fresh hvalid hroom rfl rfl
  obtain ⟨d₁, d₂, hdelivers, hadvance, hticks, hclock, hreport⟩ :=
    exists_advance hvalid hroom hfaults hlt
  have hrun := Orchestrator.run_of_break (o := o) rfl hvalid ho hdelivers hadvance hwatch hobserve
    hquiet (by rw [length_upTo]; exact hlt)
  rw [run_eq hvalid display hrun hclock hticks, hreport]
  rfl

end

end Trial

end Lockstep
