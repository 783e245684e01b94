import Lockstep.Proofs.Field.Server
import Lockstep.Proofs.Run.Law

namespace Lockstep

/-- The time since the start of a run, as its clock shows it. -/
theorem Timing.nanos_since_iterate (t : Timing) (n : ℕ) :
    (((·.advance t.tick)^[n] ({} : Clock)).elapsed.since ({} : Clock).elapsed).nanos =
      t.shownAfter n := by
  show ((·.advance t.tick)^[n] ({} : Clock)).count.toNat - 0 = _
  rw [Nat.sub_zero, Clock.toNat_count_iterate_mod]
  exact congrArg (· % 2 ^ 64) (Nat.zero_add _)

/-- A set without sequences has nothing to report. -/
theorem SequenceSet.sequences_of_history_empty {ws : List Snapshot} {rs : List Report}
    {s : SequenceSet} (h : history {} ws = .ok (rs, s)) : ∀ r ∈ rs, r.sequences = [] := by
  induction ws generalizing rs with
  | nil =>
    cases h
    intro r hr
    cases hr
  | cons w ws ih =>
    obtain ⟨r, s', rs', he, ha, rfl⟩ := along_cons_eq_ok_iff.mp h
    cases he
    exact List.forall_mem_cons.mpr ⟨rfl, ih ha⟩

namespace Orchestrator

variable {σ ω : Type} {o : Orchestrator σ ω}

/-- Turns without an early exit in which the always rule holds. The run goes on as long as there is time
left before each of them. -/
theorem turns_of_holding (hengine : o.engine = .standard) (hexit : o.earlyExit = false)
    {timing : Timing} {start : Span} {ws : List Snapshot} {p : Progress σ ω} {d : TickDriver σ}
    {As Es : List Report} {a e : SequenceSet} (hp : p.elapsed = p.driver.elapsed.since start)
    (hdelivers : p.driver.Delivers timing.tick ws d) (hA : p.always.history ws = .ok (As, a))
    (hE : p.eventually.history ws = .ok (Es, e)) (hholds : ∀ r ∈ As, r.offending .always = [])
    (htime : ∀ i < ws.length,
      ((·.advance timing.tick)^[i] p.driver.clock).elapsed.since start < timing.timeout) :
    ∃ q : Progress σ ω, q.elapsed = d.elapsed.since start ∧ q.driver = d ∧
      ∀ limit, o.turns start timing (limit + ws.length) p = o.turns start timing limit q := by
  -- by induction on the snapshots, from any progress whose time is that of its clock
  induction ws generalizing p As Es with
  | nil =>
    cases hdelivers
    exact ⟨p, hp, rfl, fun _ => rfl⟩
  | cons w ws ih =>
    obtain ⟨always, a₁, As', ha, hA', rfl⟩ := along_cons_eq_ok_iff.mp hA
    obtain ⟨eventually, e₁, Es', he, hE', rfl⟩ := along_cons_eq_ok_iff.mp hE
    cases hdelivers with
    | @cons _ d₁ _ _ _ hadvance hrest =>
      let x : Observation := ⟨d₁.elapsed.since start, w, eventually, always⟩
      let c : Panel := ⟨a₁, e₁, 0⟩
      have hturn : o.turn start timing.tick p = .next (p.saw o.observer d₁ x c) := by
        have hok : x.always.check .always = .ok () :=
          Report.check_of_offending_nil (hholds always List.mem_cons_self)
        rw [turn_of_evaluate (x := x) (c := c) hadvance (by rw [hengine]; exact he)
          (by rw [hengine]; exact ha) rfl rfl, hengine]
        dsimp only [Engine.standard]
        rw [hok, hexit]
        rfl
      have hleft : p.elapsed < timing.timeout := by
        rw [hp]
        exact htime 0 (by rw [List.length_cons]; exact Nat.succ_pos _)
      obtain ⟨q, hq, hd, hturns⟩ := ih (p := p.saw o.observer d₁ x c) rfl hrest hA' hE'
        (fun r hr => hholds r (List.mem_cons_of_mem always hr)) (by
          intro i hi
          have hlater := htime (i + 1) (by rw [List.length_cons]; omega)
          rw [Function.iterate_succ_apply, ← TickDriver.clock_of_advance hadvance] at hlater
          exact hlater)
      refine ⟨q, hq, hd, ?_⟩
      intro limit
      rw [← hturns limit, List.length_cons, ← Nat.add_assoc, turns, if_pos hleft, hturn]

section

variable (hengine : o.engine = .standard) (hexit : o.earlyExit = false)
  (hclock : o.driver.clock = {}) (hticks : o.driver.ticks = 0) {timing : Timing}
  {w : ℕ → Snapshot} (hw : ∀ i, 0 < i → (w i).tick = i)
  (hserves : ∀ n, ∃ t, o.driver.link.Serves (.ofSpan timing.tick) o.driver.state (upTo w n) t)
  {always eventually : SequenceSet}
  (halways : ∀ n, ∃ rs a, always.history (upTo w n) = .ok (rs, a) ∧
    ∀ r ∈ rs, ∀ s ∈ r.sequences, s.status ≠ .failed)
  (heventually : ∀ n, ∃ rs e, eventually.history (upTo w n) = .ok (rs, e))

include hengine hexit hclock hticks hw hserves halways heventually

theorem exists_turns_of_left {n : ℕ} (hleft : ∀ i < n, timing.shownAfter i < timing.timeout.nanos) :
    ∃ q : Progress σ ω, q.elapsed.nanos = timing.shownAfter n ∧ q.driver.ticks = n ∧
      ∀ limit, o.turns o.driver.elapsed timing (limit + n) (o.opening always eventually) =
        o.turns o.driver.elapsed timing limit q := by
  have hnumbered : NumberedFrom o.driver.ticks (upTo w n) := by
    apply numberedFrom_upTo_iff.mpr
    intro i hpos _
    rw [hticks, Nat.zero_add]
    exact hw i hpos
  obtain ⟨t, ht⟩ := hserves n
  obtain ⟨d, hd, -⟩ := TickDriver.delivers_of_serves ht hnumbered
  obtain ⟨As, a, hA, hholds⟩ := halways n
  obtain ⟨Es, e, hE⟩ := heventually n
  -- nothing that is observed ends the run, so it goes on while the clock shows less than the timeout
  have hstart : o.driver.elapsed = ({} : Clock).elapsed := congrArg Clock.elapsed hclock
  have hopening : (o.opening always eventually).elapsed =
      (o.opening always eventually).driver.elapsed.since o.driver.elapsed := by
    apply Span.ext
    exact (Nat.sub_self o.driver.elapsed.nanos).symm
  have hrule : ∀ r ∈ As, r.offending .always = [] := by
    intro r hr
    by_contra hbroken
    obtain ⟨s, hs, hfailed⟩ := (Report.offending_always_ne_nil_iff r).mp hbroken
    exact hholds r hr s hs hfailed
  have htime : ∀ i < (upTo w n).length, ((·.advance timing.tick)^[i] o.driver.clock).elapsed.since
      o.driver.elapsed < timing.timeout := by
    intro i hi
    rw [length_upTo] at hi
    show (((·.advance timing.tick)^[i] o.driver.clock).elapsed.since o.driver.elapsed).nanos <
      timing.timeout.nanos
    rw [hstart, hclock, timing.nanos_since_iterate]
    exact hleft i hi
  obtain ⟨q, hq, rfl, hturns⟩ := turns_of_holding hengine hexit hopening hd hA hE hrule htime
  rw [length_upTo] at hturns
  refine ⟨q, ?_, ?_, hturns⟩
  · rw [hq, TickDriver.elapsed, hd.clock_eq, hstart, hclock, length_upTo, timing.nanos_since_iterate]
  · rw [hd.ticks, hticks, length_upTo, Nat.zero_add]

/-- The run ends when the clock shows the timeout for the first time. -/
theorem exists_run_of_isLeast (hvalid : timing.Valid) {n : ℕ}
    (hn : IsLeast {i | timing.timeout.nanos ≤ timing.shownAfter i} n) :
    ∃ outcome o', o.run always eventually timing = some (.ok outcome, o') ∧
      o'.driver.ticks = n := by
  have hleft : ∀ i < n, timing.shownAfter i < timing.timeout.nanos := by
    intro i hi
    by_contra hup
    exact absurd (hn.2 (Nat.not_lt.mp hup)) (Nat.not_le.mpr hi)
  obtain ⟨q, helapsed, hq, hturns⟩ := exists_turns_of_left hengine hexit hclock hticks hw hserves
    halways heventually hleft
  have hup : ¬ q.elapsed < timing.timeout := by
    show ¬ q.elapsed.nanos < timing.timeout.nanos
    rw [helapsed]
    exact Nat.not_lt.mpr hn.1
  -- the clock comes back to where it was, so this happens among the first ticks of a word
  have hword : n < 2 ^ 64 := by
    have hback : n % 2 ^ 64 ∈ {i | timing.timeout.nanos ≤ timing.shownAfter i} := by
      show timing.timeout.nanos ≤ timing.shownAfter (n % 2 ^ 64)
      rw [timing.shownAfter_mod]
      exact hn.1
    exact lt_of_le_of_lt (hn.2 hback) (Nat.mod_lt n (by decide))
  have hmax : maxTurns = (2 ^ 64 - 1 - n + 1) + n := by
    have hsize : maxTurns = 2 ^ 64 := rfl
    omega
  have hend : o.turns o.driver.elapsed timing maxTurns (o.opening always eventually) =
      some (.ok (o.judgement q), q) := by
    rw [hmax, hturns, turns, if_neg hup]
  exact ⟨_, _, (run_eq_some_iff hvalid).mpr ⟨q, hend, rfl⟩, hq⟩

theorem run_eq_none_of_left (hvalid : timing.Valid)
    (hleft : ∀ i, timing.shownAfter i < timing.timeout.nanos) :
    o.run always eventually timing = none := by
  -- no limit on the turns is enough, not even the largest one
  obtain ⟨q, -, -, hturns⟩ := exists_turns_of_left (n := maxTurns) hengine hexit hclock hticks hw hserves
    halways heventually fun i _ => hleft i
  have hnone : o.turns o.driver.elapsed timing maxTurns (o.opening always eventually) = none := by
    rw [← Nat.zero_add maxTurns, hturns]
    rfl
  rw [Option.eq_none_iff_forall_ne_some]
  rintro ⟨ending, o'⟩ hrun
  obtain ⟨q', hsome, -⟩ := (run_eq_some_iff hvalid).mp hrun
  rw [hnone] at hsome
  cases hsome

end

/-- **Tick budget.** A run from a clock at zero, without an early exit, on a link that answers every tick
with a snapshot on which no predicate breaks off and the always rule holds. It ends with the tick after
which its clock shows the timeout for the first time, and never if the clock does not come to show it. So it
takes `⌈timeout / tick⌉` ticks exactly if these fit into the word in which the clock counts nanoseconds. -/
theorem run_ticks_iff (o : Orchestrator σ ω) (hengine : o.engine = .standard)
    (hexit : o.earlyExit = false) (hclock : o.driver.clock = {}) (hticks : o.driver.ticks = 0)
    {timing : Timing} (hvalid : timing.Valid) {w : ℕ → Snapshot} (hw : ∀ i, 0 < i → (w i).tick = i)
    (hserves : ∀ n, ∃ t, o.driver.link.Serves (.ofSpan timing.tick) o.driver.state (upTo w n) t)
    {always eventually : SequenceSet}
    (halways : ∀ n, ∃ rs a, always.history (upTo w n) = .ok (rs, a) ∧
      ∀ r ∈ rs, ∀ s ∈ r.sequences, s.status ≠ .failed)
    (heventually : ∀ n, ∃ rs e, eventually.history (upTo w n) = .ok (rs, e)) :
    (o.run always eventually timing = none ↔
      ∀ i, timing.shownAfter i < timing.timeout.nanos) ∧
    (∀ n, (∃ outcome o', o.run always eventually timing = some (.ok outcome, o') ∧
        o'.driver.ticks = n) ↔
      IsLeast {i | timing.timeout.nanos ≤ timing.shownAfter i} n) ∧
    ((∃ outcome o', o.run always eventually timing = some (.ok outcome, o') ∧
        o'.driver.ticks = timing.expectedTicks) ↔
      timing.fullTicks * timing.tick.nanos < 2 ^ 64) := by
  have hends {n : ℕ} (hn : IsLeast {i | timing.timeout.nanos ≤ timing.shownAfter i} n) :=
    exists_run_of_isLeast hengine hexit hclock hticks hw hserves halways heventually hvalid hn
  have hnever := run_eq_none_of_left hengine hexit hclock hticks hw hserves halways heventually hvalid
  -- either the clock shows the timeout at some tick, and then at a first one, or it never does
  have hcases : (∃ n, IsLeast {i | timing.timeout.nanos ≤ timing.shownAfter i} n) ∨
      ∀ i, timing.shownAfter i < timing.timeout.nanos := by
    by_cases hup : ∃ i, timing.timeout.nanos ≤ timing.shownAfter i
    · exact Or.inl ⟨Nat.find hup, Nat.find_spec hup, fun i hi => Nat.find_min' hup hi⟩
    · exact Or.inr fun i => Nat.not_le.mp fun h => hup ⟨i, h⟩
  -- a run has one end, so its last tick is the one that the clock gives
  have hlaw (n : ℕ) : (∃ outcome o', o.run always eventually timing = some (.ok outcome, o') ∧
      o'.driver.ticks = n) ↔ IsLeast {i | timing.timeout.nanos ≤ timing.shownAfter i} n := by
    constructor
    · rintro ⟨outcome, o', hrun, rfl⟩
      obtain ⟨m, hm⟩ | hleft := hcases
      · obtain ⟨outcome', o₁, hrun', hm'⟩ := hends hm
        obtain ⟨-, rfl⟩ := Prod.mk.inj (Option.some.inj (hrun.symm.trans hrun'))
        rw [hm']
        exact hm
      · rw [hnever hleft] at hrun
        cases hrun
    · exact hends
  refine ⟨⟨?_, hnever⟩, hlaw, ?_⟩
  · intro hnone
    obtain ⟨m, hm⟩ | hleft := hcases
    · obtain ⟨outcome, o', hrun, -⟩ := hends hm
      rw [hnone] at hrun
      cases hrun
    · exact hleft
  · rw [hlaw, Timing.isLeast_expectedTicks_iff hvalid]

/-- A timing whose ticks fit, on the server of an empty field. -/
theorem run_ticks_within_word :
    let timing : Timing := ⟨⟨25, by decide⟩, ⟨10, by decide⟩⟩
    let o : Orchestrator FieldServer.Post Unit :=
      { driver := FieldServer.driver (.ofSeed 0) {}, observer := .idle, notes := () }
    timing.Valid ∧ o.earlyExit = false ∧ timing.fullTicks * timing.tick.nanos < 2 ^ 64 ∧
      ∃ outcome o', o.run {} {} timing = some (.ok outcome, o') ∧ o'.driver.ticks = 3 := by
  intro timing o
  have hvalid : timing.Valid := by decide
  have hfull : timing.fullTicks = 3 := by
    rw [Timing.fullTicks, Nat.ceilDiv_eq_add_pred_div]
    show (25 + 10 - 1) / 10 = 3
    rfl
  have hfits : timing.fullTicks * timing.tick.nanos < 2 ^ 64 := by
    rw [hfull]
    decide
  have hexpected : timing.expectedTicks = 3 := by decide
  let server : FieldServer := { field := .ofSeed 0 }
  have hserves (n : ℕ) : ∃ t, o.driver.link.Serves (.ofSpan timing.tick) o.driver.state
      (upTo (server.answer (.ofSpan timing.tick)) n) t :=
    ⟨_, FieldServer.serves rfl _ (FaultPlan.allows_none _)⟩
  have hnumber : ∀ i, 0 < i → (server.answer (.ofSpan timing.tick) i).tick = i := by
    intro i hi
    obtain ⟨j, rfl⟩ := Nat.exists_eq_add_of_le' hi
    rw [FieldServer.tick_answer]
    show 0 + j + 1 = j + 1
    rw [Nat.zero_add]
  have halways (n : ℕ) : ∃ rs a, SequenceSet.history {}
      (upTo (server.answer (.ofSpan timing.tick)) n) = .ok (rs, a) ∧
        ∀ r ∈ rs, ∀ s ∈ r.sequences, s.status ≠ .failed := by
    obtain ⟨rs, a, h, -⟩ := SequenceSet.history_of_isTotal SequenceSet.isTotal_empty _
    refine ⟨rs, a, h, ?_⟩
    intro r hr s hs
    rw [SequenceSet.sequences_of_history_empty h r hr] at hs
    cases hs
  obtain ⟨-, -, hbudget⟩ := run_ticks_iff o rfl rfl rfl rfl hvalid hnumber hserves halways (by
    intro n
    obtain ⟨rs, a, h, -⟩ := halways n
    exact ⟨rs, a, h⟩)
  rw [hexpected] at hbudget
  exact ⟨hvalid, rfl, hfits, hbudget.mpr hfits⟩

/-- Two ticks that take more time than fits into a word. The clock runs over with the second one, so that
the run takes a third. -/
theorem run_ticks_past_word :
    let timing : Timing := ⟨⟨2 ^ 63 + 2, by decide⟩, ⟨2 ^ 63 + 1, by decide⟩⟩
    let o : Orchestrator Playback Unit :=
      { driver := { link := Playback.link
                    state := { answers := [.ok (.empty 1 0.0), .ok (.empty 2 0.0),
                      .ok (.empty 3 0.0)] } }
        observer := .idle, notes := () }
    timing.Valid ∧ timing.expectedTicks = 2 ∧ o.earlyExit = false ∧
      ∃ o', o.run {} {} timing = some (.ok .passed, o') ∧ o'.driver.ticks = 3 :=
  ⟨by decide, by decide, rfl, _, rfl, rfl⟩

end Orchestrator

end Lockstep
