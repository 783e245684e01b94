import Lockstep.Proofs.Run.Delivery
import Lockstep.Proofs.Run.Panel
import Lockstep.Run.Orchestrator

/-!
The turns of a run. `Orchestrator.turn_eq` says what a turn does whose tick was answered. A quiet turn
is one after which the run goes on, and `turns_of_quiet` skips any number of them. From it follow the ways
in which a run ends: by an observation that closes it (`run_of_closing`), by a tick that fails
(`run_of_cut`), or by a predicate that breaks off (`run_of_break`).
-/

namespace Lockstep

/-- The notes of an observer that was told these observations in turn. -/
def Observer.told {ω : Type} (observer : Observer ω) (xs : List Observation) (notes : ω) : ω :=
  xs.foldl (fun notes x => observer.onTick x notes) notes

namespace Orchestrator

/-- The driver's clock and its counter have room for a run that goes on until the timeout. -/
structure HasRoom {σ ω : Type} (o : Orchestrator σ ω) (timing : Timing) : Prop where
  clock : o.driver.clock.count.toNat + timing.timeout.nanos + timing.tick.nanos ≤ 2 ^ 64
  ticks : o.driver.ticks + timing.fullTicks < 2 ^ 64

namespace Progress

variable {σ ω : Type}

/-- After some ticks of a run, its clock and its elapsed time are those of so many ticks. -/
structure Paced (o : Orchestrator σ ω) (timing : Timing) (i : ℕ) (p : Progress σ ω) : Prop where
  clock : p.driver.clock.count.toNat = o.driver.clock.count.toNat + i * timing.tick.nanos
  elapsed : p.elapsed.nanos = i * timing.tick.nanos

/-- The sets of the progress, which have seen some snapshots of the run. -/
def panel (p : Progress σ ω) (seen : ℕ) : Panel := ⟨p.always, p.eventually, seen⟩

/-- The progress after an observation. -/
def saw (p : Progress σ ω) (observer : Observer ω) (driver : TickDriver σ) (x : Observation)
    (c : Panel) : Progress σ ω :=
  { driver, notes := observer.onTick x p.notes, always := c.always, eventually := c.eventually
    elapsed := x.elapsed, last := some x.eventually }

end Progress

variable {σ ω : Type} {o : Orchestrator σ ω}

/-- A turn whose tick was answered, and on whose snapshot both sets gave their reports. -/
theorem turn_of_evaluate {p : Progress σ ω} {start tick : Span} {w : Snapshot} {d : TickDriver σ}
    {x : Observation} {c : Panel} (hadvance : p.driver.advance tick = (.ok w, d))
    (he : o.engine.evaluate p.eventually w = .ok (x.eventually, c.eventually))
    (ha : o.engine.evaluate p.always w = .ok (x.always, c.always))
    (helapsed : x.elapsed = d.elapsed.since start) (hworld : x.world = w) :
    o.turn start tick p =
      match o.engine.check .always x.always with
      | .error failure => .ended (.failedAlways failure) (p.saw o.observer d x c)
      | .ok () =>
        if o.earlyExit && !c.eventually.isEmpty && (o.engine.check .eventually x.eventually).isOk
        then .judge (p.saw o.observer d x c) else .next (p.saw o.observer d x c) := by
  obtain ⟨elapsed, world, eventually, always⟩ := x
  obtain ⟨a, e, seen⟩ := c
  dsimp only at he ha helapsed hworld
  subst helapsed hworld
  unfold turn
  rw [hadvance]
  simp only [he, ha]
  cases o.engine.check .always always with
  | error failure => rfl
  | ok _ => rfl

/-- A turn whose tick was answered ends the run if the always rule is broken, leaves it to the
eventually rule if an early exit is wanted and there is cause for one, and goes on otherwise. -/
theorem turn_eq (hengine : o.engine = .standard) {p : Progress σ ω} {start tick : Span} {i : ℕ}
    {w : Snapshot} {d : TickDriver σ} {x : Observation} {c : Panel}
    (hadvance : p.driver.advance tick = (.ok w, d))
    (helapsed : d.elapsed.since start = tick.times (i + 1))
    (hobserve : (p.panel i).observe tick w = .ok (x, c)) :
    o.turn start tick p =
      if x.always.offending .always ≠ [] then
        .ended (.failedAlways ⟨.always, x.always.tick, x.always.offending .always⟩)
          (p.saw o.observer d x c)
      else if o.earlyExit = true ∧ x.eventually.sequences ≠ [] ∧
          x.eventually.offending .eventually = [] then
        .judge (p.saw o.observer d x c)
      else .next (p.saw o.observer d x c) := by
  obtain ⟨he, ha, ht, hw, -⟩ := Panel.observe_eq_ok_iff.mp hobserve
  have hempty := SequenceSet.isEmpty_of_evaluate he
  dsimp only [Progress.panel] at he ha ht hempty
  -- the turn looks at the eventually set after the evaluation, but whether it is empty does not change
  have hmet : (o.earlyExit && !c.eventually.isEmpty && (x.eventually.check .eventually).isOk) = true ↔
      o.earlyExit = true ∧ x.eventually.sequences ≠ [] ∧
        x.eventually.offending .eventually = [] := by
    rw [hempty.2, ← hempty.1]
    simp only [Bool.and_eq_true, Bool.not_eq_true', List.isEmpty_eq_false_iff, and_assoc,
      Report.isOk_check_iff, ne_eq]
  rw [turn_of_evaluate hadvance (by rw [hengine]; exact he) (by rw [hengine]; exact ha)
    (ht.trans helapsed.symm) hw, hengine]
  dsimp only [Engine.standard]
  by_cases hv : x.always.offending .always = []
  · rw [Report.check_of_offending_nil hv, if_neg (not_not.mpr hv)]
    exact if_congr hmet rfl rfl
  · rw [Report.check_of_offending_ne_nil hv, if_pos hv]

theorem turn_of_quiet (hengine : o.engine = .standard) {p : Progress σ ω} {start tick : Span} {i : ℕ}
    {w : Snapshot} {d : TickDriver σ} {x : Observation} {c : Panel}
    (hadvance : p.driver.advance tick = (.ok w, d))
    (helapsed : d.elapsed.since start = tick.times (i + 1))
    (hobserve : (p.panel i).observe tick w = .ok (x, c)) (hquiet : ¬ x.Ends o.earlyExit) :
    o.turn start tick p = .next (p.saw o.observer d x c) := by
  obtain ⟨hv, hm⟩ := not_or.mp hquiet
  rw [Observation.violated_iff] at hv
  rw [Observation.met_iff] at hm
  rw [turn_eq hengine hadvance helapsed hobserve, if_neg hv, if_neg hm]

/-- The eventually rule judges a run by its last observation. -/
theorem judgement_saw (hengine : o.engine = .standard) (p : Progress σ ω) (d : TickDriver σ)
    {x : Observation} (c : Panel) (hv : x.always.offending .always = [])
    (htick : x.eventually.tick = x.world.tick) :
    o.judgement (p.saw o.observer d x c) = x.verdict := by
  rw [Observation.verdict_eq, if_neg (not_not.mpr hv), judgement, hengine]
  simp only [Progress.saw, Engine.standard]
  by_cases hm : x.eventually.offending .eventually = []
  · rw [Report.check_of_offending_nil hm, if_neg (not_not.mpr hm)]
  · rw [Report.check_of_offending_ne_nil hm, if_pos hm, htick]

/-- The last turn of a run, which an observation ends or the timeout. -/
theorem turns_of_closing (hengine : o.engine = .standard) {timing : Timing} {p : Progress σ ω}
    {start : Span} {i : ℕ} {w : Snapshot} {d : TickDriver σ} {x : Observation} {c : Panel}
    (htime : p.elapsed < timing.timeout)
    (hadvance : p.driver.advance timing.tick = (.ok w, d))
    (helapsed : d.elapsed.since start = timing.tick.times (i + 1))
    (hobserve : (p.panel i).observe timing.tick w = .ok (x, c))
    (hclose : x.Ends o.earlyExit ∨ ¬ x.elapsed < timing.timeout) (limit : ℕ) :
    o.turns start timing (limit + 2) p = some (.ok x.verdict, p.saw o.observer d x c) := by
  obtain ⟨hatick, hetick⟩ := Panel.tick_of_observe hobserve
  rw [turns, if_pos htime]
  by_cases hv : x.always.offending .always = []
  · have hjudge := judgement_saw hengine p d c hv hetick
    by_cases hends : x.Ends o.earlyExit
    · -- the always rule holds, so there is an early exit
      obtain hviolated | hmet := hends
      · exact absurd hv (Observation.violated_iff.mp hviolated)
      · rw [Observation.met_iff] at hmet
        rw [turn_eq hengine hadvance helapsed hobserve, if_neg (not_not.mpr hv), if_pos hmet]
        dsimp only
        rw [hjudge]
    · have hover : ¬ (p.saw o.observer d x c).elapsed < timing.timeout := hclose.resolve_left hends
      rw [turn_of_quiet hengine hadvance helapsed hobserve hends]
      dsimp only
      rw [turns, if_neg hover, hjudge]
  · rw [turn_eq hengine hadvance helapsed hobserve, if_pos hv, Observation.verdict_eq, if_pos hv,
      hatick]

/-- A tick that fails ends the run with its error. -/
theorem turn_of_failure {p : Progress σ ω} {start tick : Span} {e : LinkError} {d : TickDriver σ}
    (hadvance : p.driver.advance tick = (.error e, d)) :
    o.turn start tick p = .ended (.failedException (.transport e)) { p with driver := d } := by
  rw [turn, hadvance]

/-- A predicate that breaks off does so before the observer is told of the snapshot. -/
theorem turn_of_break {p : Progress σ ω} {start tick : Span} {w : Snapshot} {d : TickDriver σ}
    {panic : Panic} (hadvance : p.driver.advance tick = (.ok w, d))
    (hbreaks : o.engine.evaluate p.eventually w = .error panic ∨
      ∃ found, o.engine.evaluate p.eventually w = .ok found ∧
        o.engine.evaluate p.always w = .error panic) :
    o.turn start tick p =
      .broken panic { p with driver := d, elapsed := d.elapsed.since start } := by
  obtain he | ⟨found, he, ha⟩ := hbreaks
  · simp only [turn, hadvance, he]
  · simp only [turn, hadvance, he, ha]

theorem HasRoom.of_fresh {timing : Timing} (hvalid : timing.Valid)
    (hroom : timing.timeout.nanos + timing.tick.nanos ≤ 2 ^ 64) (hclock : o.driver.clock = {})
    (hticks : o.driver.ticks = 0) : o.HasRoom timing := by
  refine ⟨?_, ?_⟩
  · rw [hclock]
    simpa using hroom
  · have hfit := Timing.mul_lt_of_le_fullTicks hvalid (le_refl timing.fullTicks)
    have hle : timing.fullTicks * 1 ≤ timing.fullTicks * timing.tick.nanos :=
      Nat.mul_le_mul_left _ hvalid.1
    omega

/-- While a run has ticks left, the clock does not run over. -/
theorem HasRoom.clock_lt {timing : Timing} (hroom : o.HasRoom timing) (hvalid : timing.Valid) {i : ℕ}
    (hi : i ≤ timing.fullTicks) :
    o.driver.clock.count.toNat + i * timing.tick.nanos < 2 ^ 64 := by
  have hfit := Timing.mul_lt_of_le_fullTicks hvalid hi
  have hclock := hroom.clock
  omega

namespace Progress.Paced

variable {timing : Timing} {i : ℕ} {p : Progress σ ω}

theorem lt_timeout (hp : p.Paced o timing i) (hvalid : timing.Valid) (hi : i < timing.fullTicks) :
    p.elapsed < timing.timeout := by
  show p.elapsed.nanos < timing.timeout.nanos
  rw [hp.elapsed]
  exact (Timing.lt_fullTicks_iff hvalid i).mp hi

theorem not_lt_timeout (hp : p.Paced o timing i) (hvalid : timing.Valid)
    (hi : timing.fullTicks ≤ i) : ¬ p.elapsed < timing.timeout := by
  show ¬ p.elapsed.nanos < timing.timeout.nanos
  rw [hp.elapsed, ← Timing.lt_fullTicks_iff hvalid]
  omega

/-- The time of a run after its next tick. -/
theorem since_eq (hp : p.Paced o timing i) (hroom : o.HasRoom timing) (hvalid : timing.Valid)
    (hi : i < timing.fullTicks) {w : Snapshot} {d : TickDriver σ}
    (hadvance : p.driver.advance timing.tick = (.ok w, d)) :
    d.clock.count.toNat = o.driver.clock.count.toNat + (i + 1) * timing.tick.nanos ∧
      d.elapsed.since o.driver.elapsed = timing.tick.times (i + 1) := by
  have hlt := hroom.clock_lt hvalid (show i + 1 ≤ timing.fullTicks from hi)
  have hnext : (i + 1) * timing.tick.nanos = i * timing.tick.nanos + timing.tick.nanos :=
    Nat.succ_mul _ _
  have hclock := hp.clock
  have hcount : d.clock.count.toNat =
      o.driver.clock.count.toNat + (i + 1) * timing.tick.nanos := by
    rw [TickDriver.clock_of_advance hadvance, Clock.toNat_count_advance (by omega), hclock]
    omega
  refine ⟨hcount, ?_⟩
  apply Span.ext
  rw [Span.nanos_times (by omega)]
  show d.clock.count.toNat - o.driver.clock.count.toNat = _
  omega

theorem saw (hp : p.Paced o timing i) (hroom : o.HasRoom timing) (hvalid : timing.Valid)
    (hi : i < timing.fullTicks) {w : Snapshot} {d : TickDriver σ} {x : Observation} {c : Panel}
    (hadvance : p.driver.advance timing.tick = (.ok w, d))
    (hobserve : (p.panel i).observe timing.tick w = .ok (x, c)) :
    (p.saw o.observer d x c).Paced o timing (i + 1) := by
  have hlt := hroom.clock_lt hvalid (show i + 1 ≤ timing.fullTicks from hi)
  have hx : x.elapsed = timing.tick.times (i + 1) := (Panel.observe_eq_ok_iff.mp hobserve).2.2.1
  refine ⟨(hp.since_eq hroom hvalid hi hadvance).1, ?_⟩
  show x.elapsed.nanos = _
  rw [hx]
  exact Span.nanos_times (by omega)

end Progress.Paced

/-- Quiet turns lead from one progress to another, and the run goes on from there. -/
theorem turns_of_quiet (hengine : o.engine = .standard) {timing : Timing} (hvalid : timing.Valid)
    (hroom : o.HasRoom timing) {ws : List Snapshot} {xs : List Observation} {p : Progress σ ω} {i : ℕ}
    {c : Panel} {d : TickDriver σ} (hp : p.Paced o timing i)
    (hdelivers : p.driver.Delivers timing.tick ws d)
    (hwatch : (p.panel i).watch timing.tick ws = .ok (xs, c))
    (hquiet : ∀ x ∈ xs, ¬ x.Ends o.earlyExit) (hi : i + ws.length ≤ timing.fullTicks) :
    ∃ q : Progress σ ω, q.Paced o timing (i + ws.length) ∧ q.driver = d ∧
      q.panel (i + ws.length) = c ∧ q.notes = o.observer.told xs p.notes ∧
      ∀ limit, o.turns o.driver.elapsed timing (limit + ws.length) p =
        o.turns o.driver.elapsed timing limit q := by
  -- by induction on the snapshots, from any progress that keeps pace
  induction ws generalizing xs p i with
  | nil =>
    cases hwatch
    cases hdelivers
    exact ⟨p, hp, rfl, rfl, rfl, fun _ => rfl⟩
  | cons w ws ih =>
    rw [List.length_cons] at hi
    -- the first turn is quiet, and the others go on from the progress after it
    obtain ⟨x, c₁, xs', hx, hxs, rfl⟩ := along_cons_eq_ok_iff.mp hwatch
    cases hdelivers with
    | @cons _ d₁ _ _ _ hadvance hrest =>
      have hlt : i < timing.fullTicks := by omega
      have hturn := turn_of_quiet hengine hadvance (hp.since_eq hroom hvalid hlt hadvance).2 hx
        (hquiet x List.mem_cons_self)
      have hseen : (p.saw o.observer d₁ x c₁).panel (i + 1) = c₁ := by
        obtain ⟨-, -, -, -, hc⟩ := Panel.observe_eq_ok_iff.mp hx
        rw [show i + 1 = c₁.seen from hc.symm]
        rfl
      obtain ⟨q, hq, hd, hc, hnotes, hturns⟩ := ih (hp.saw hroom hvalid hlt hadvance hx) hrest
        (by rw [hseen]; exact hxs) (fun y hy => hquiet y (List.mem_cons_of_mem x hy)) (by omega)
      have hlen : i + 1 + ws.length = i + (w :: ws).length := by
        rw [List.length_cons]
        omega
      rw [hlen] at hq hc
      refine ⟨q, hq, hd, hc, hnotes, ?_⟩
      intro limit
      rw [← hturns limit, List.length_cons, ← Nat.add_assoc, turns,
        if_pos (hp.lt_timeout hvalid hlt), hturn]

theorem maxTurns_eq {timing : Timing} (hroom : o.HasRoom timing) {n : ℕ} (hn : n < timing.fullTicks) :
    ∃ limit, maxTurns = limit + 2 + n := by
  have hticks := hroom.ticks
  have hmax : maxTurns = 2 ^ 64 := rfl
  exact ⟨maxTurns - 2 - n, by omega⟩

/-- The progress of a run before its first turn. -/
def opening (o : Orchestrator σ ω) (always eventually : SequenceSet) : Progress σ ω :=
  { driver := o.driver, notes := o.notes, always, eventually }

theorem opening_paced (o : Orchestrator σ ω) (always eventually : SequenceSet) (timing : Timing) :
    (o.opening always eventually).Paced o timing 0 :=
  ⟨by simp only [opening, Nat.zero_mul, Nat.add_zero], by simp only [opening, Span.zero, Nat.zero_mul]⟩

/-- The orchestrator when its run has come to an end: the observer is told the outcome, if there is
one. -/
def concluded (o : Orchestrator σ ω) (ending : Except Panic Outcome) (q : Progress σ ω) :
    Orchestrator σ ω :=
  match ending with
  | .ok outcome => { o with driver := q.driver, notes := o.observer.onFinish outcome q.notes }
  | .error _ => { o with driver := q.driver, notes := q.notes }

/-- A run with a valid timing comes to the end that its turns come to. -/
theorem run_eq_some_iff {always eventually : SequenceSet} {timing : Timing} (hvalid : timing.Valid)
    {ending : Except Panic Outcome} {o' : Orchestrator σ ω} :
    o.run always eventually timing = some (ending, o') ↔
      ∃ q, o.turns o.driver.elapsed timing maxTurns (o.opening always eventually) =
        some (ending, q) ∧ o' = o.concluded ending q := by
  have hopening : ({ driver := o.driver, notes := o.notes, always, eventually } : Progress σ ω) =
      o.opening always eventually := rfl
  rw [run, Timing.validate_eq_ok_iff.mpr hvalid]
  dsimp only
  rw [hopening]
  constructor
  · intro h
    obtain ⟨⟨found, q⟩, hturns, hend⟩ := Option.map_eq_some_iff.mp h
    cases found <;> (cases hend; exact ⟨q, hturns, rfl⟩)
  · rintro ⟨q, hturns, rfl⟩
    rw [hturns]
    cases ending <;> rfl

/-- A run that begins with quiet turns ends as the turns after them do. -/
theorem exists_run_of_quiet (hengine : o.engine = .standard) {timing : Timing} (hvalid : timing.Valid)
    (hroom : o.HasRoom timing) {always eventually : SequenceSet} {ws : List Snapshot}
    {quiet : List Observation} {c : Panel} {d : TickDriver σ}
    (hdelivers : o.driver.Delivers timing.tick ws d)
    (hwatch : (⟨always, eventually, 0⟩ : Panel).watch timing.tick ws = .ok (quiet, c))
    (hquiet : ∀ y ∈ quiet, ¬ y.Ends o.earlyExit) (hlt : ws.length < timing.fullTicks) :
    ∃ q : Progress σ ω, q.Paced o timing ws.length ∧ q.driver = d ∧ q.panel ws.length = c ∧
      q.notes = o.observer.told quiet o.notes ∧
      ∀ ending p, (∀ limit, o.turns o.driver.elapsed timing (limit + 2) q = some (ending, p)) →
        o.run always eventually timing = some (ending, o.concluded ending p) := by
  obtain ⟨q, hq, hd, hc, hnotes, hturns⟩ := turns_of_quiet hengine hvalid hroom
    (o.opening_paced always eventually timing) hdelivers hwatch hquiet (by omega)
  rw [Nat.zero_add] at hq hc
  refine ⟨q, hq, hd, hc, hnotes, ?_⟩
  intro ending p hlast
  refine (run_eq_some_iff hvalid).mpr ⟨p, ?_, rfl⟩
  obtain ⟨limit, hmax⟩ := maxTurns_eq hroom hlt
  rw [hmax, hturns (limit + 2)]
  exact hlast limit

/-- A run ends with the first observation that ends it, or with the one that uses up its time. -/
theorem run_of_closing (hengine : o.engine = .standard) {timing : Timing} (hvalid : timing.Valid)
    (hroom : o.HasRoom timing) {always eventually : SequenceSet} {ws : List Snapshot} {w : Snapshot}
    {quiet : List Observation} {x : Observation} {c₁ c₂ : Panel} {d₁ d₂ : TickDriver σ}
    (hdelivers : o.driver.Delivers timing.tick ws d₁)
    (hadvance : d₁.advance timing.tick = (.ok w, d₂))
    (hwatch : (⟨always, eventually, 0⟩ : Panel).watch timing.tick ws = .ok (quiet, c₁))
    (hobserve : c₁.observe timing.tick w = .ok (x, c₂))
    (hquiet : ∀ y ∈ quiet, ¬ y.Ends o.earlyExit) (hlt : ws.length < timing.fullTicks)
    (hclose : x.Ends o.earlyExit ∨ ws.length + 1 = timing.fullTicks) :
    o.run always eventually timing = some (.ok x.verdict,
      { o with driver := d₂
               notes := o.observer.onFinish x.verdict (o.observer.told (quiet ++ [x]) o.notes) }) := by
  obtain ⟨q, hq, hd, hc, hnotes, hrun⟩ :=
    exists_run_of_quiet hengine hvalid hroom hdelivers hwatch hquiet hlt
  rw [← hd] at hadvance
  rw [← hc] at hobserve
  -- the last tick of all uses up the time, whatever its observation is
  have hover : x.Ends o.earlyExit ∨ ¬ x.elapsed < timing.timeout := by
    obtain hends | hfull := hclose
    · exact Or.inl hends
    · exact Or.inr ((hq.saw hroom hvalid hlt hadvance hobserve).not_lt_timeout hvalid hfull.ge)
  have hlast := turns_of_closing hengine (hq.lt_timeout hvalid hlt) hadvance
    (hq.since_eq hroom hvalid hlt hadvance).2 hobserve hover
  rw [hrun _ _ hlast]
  simp only [concluded, Progress.saw, hnotes, Observer.told, List.foldl_append, List.foldl_cons,
    List.foldl_nil]

/-- A tick that fails before anything else has ended the run ends it with its error. -/
theorem run_of_cut (hengine : o.engine = .standard) {timing : Timing} (hvalid : timing.Valid)
    (hroom : o.HasRoom timing) {always eventually : SequenceSet} {ws : List Snapshot}
    {quiet : List Observation} {c₁ : Panel} {d₁ d₂ : TickDriver σ} {e : LinkError}
    (hdelivers : o.driver.Delivers timing.tick ws d₁)
    (hadvance : d₁.advance timing.tick = (.error e, d₂))
    (hwatch : (⟨always, eventually, 0⟩ : Panel).watch timing.tick ws = .ok (quiet, c₁))
    (hquiet : ∀ y ∈ quiet, ¬ y.Ends o.earlyExit) (hlt : ws.length < timing.fullTicks) :
    o.run always eventually timing = some (.ok (.failedException (.transport e)),
      { o with driver := d₂
               notes := o.observer.onFinish (.failedException (.transport e))
                 (o.observer.told quiet o.notes) }) := by
  obtain ⟨q, hq, hd, -, hnotes, hrun⟩ :=
    exists_run_of_quiet hengine hvalid hroom hdelivers hwatch hquiet hlt
  rw [← hd] at hadvance
  have hlast (limit : ℕ) : o.turns o.driver.elapsed timing (limit + 2) q =
      some (.ok (.failedException (.transport e)), { q with driver := d₂ }) := by
    rw [turns, if_pos (hq.lt_timeout hvalid hlt), turn_of_failure hadvance]
  rw [hrun _ _ hlast, concluded, hnotes]

/-- A predicate that breaks off before anything else has ended the run takes the run with it. The
observer is told no outcome. -/
theorem run_of_break (hengine : o.engine = .standard) {timing : Timing} (hvalid : timing.Valid)
    (hroom : o.HasRoom timing) {always eventually : SequenceSet} {ws : List Snapshot} {w : Snapshot}
    {quiet : List Observation} {c₁ : Panel} {d₁ d₂ : TickDriver σ} {panic : Panic}
    (hdelivers : o.driver.Delivers timing.tick ws d₁)
    (hadvance : d₁.advance timing.tick = (.ok w, d₂))
    (hwatch : (⟨always, eventually, 0⟩ : Panel).watch timing.tick ws = .ok (quiet, c₁))
    (hobserve : c₁.observe timing.tick w = .error panic)
    (hquiet : ∀ y ∈ quiet, ¬ y.Ends o.earlyExit) (hlt : ws.length < timing.fullTicks) :
    o.run always eventually timing = some (.error panic,
      { o with driver := d₂, notes := o.observer.told quiet o.notes }) := by
  obtain ⟨q, hq, hd, hc, hnotes, hrun⟩ :=
    exists_run_of_quiet hengine hvalid hroom hdelivers hwatch hquiet hlt
  rw [← hd] at hadvance
  rw [← hc, Panel.observe_eq_error_iff] at hobserve
  have hbreaks : o.engine.evaluate q.eventually w = .error panic ∨
      ∃ found, o.engine.evaluate q.eventually w = .ok found ∧
        o.engine.evaluate q.always w = .error panic := by
    rw [hengine]
    exact hobserve
  have hlast (limit : ℕ) : o.turns o.driver.elapsed timing (limit + 2) q =
      some (.error panic, { q with driver := d₂, elapsed := d₂.elapsed.since o.driver.elapsed }) := by
    rw [turns, if_pos (hq.lt_timeout hvalid hlt), turn_of_break hadvance hbreaks]
  rw [hrun _ _ hlast, concluded, hnotes]

end Orchestrator

end Lockstep
