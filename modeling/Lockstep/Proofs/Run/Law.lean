import Lockstep.Proofs.Run.Turns
import Mathlib.Order.Bounds.Defs

namespace Lockstep

theorem numberedFrom_upTo_iff {n m : ℕ} {w : ℕ → Snapshot} :
    NumberedFrom n (upTo w m) ↔ ∀ i, 0 < i → i ≤ m → (w i).tick = n + i := by
  constructor
  · intro h i hpos hi
    obtain ⟨j, rfl⟩ := Nat.exists_eq_add_of_le' hpos
    have htick := h j (by rw [length_upTo]; exact hi)
    rw [getElem_upTo] at htick
    omega
  · intro h i hi
    rw [length_upTo] at hi
    have htick := h (i + 1) (Nat.succ_pos i) hi
    rw [getElem_upTo]
    omega

namespace Orchestrator

variable {σ ω : Type} {o : Orchestrator σ ω}

/-- The least positive number with a property, found by looking at all numbers before it. -/
theorem isLeast_succ {P : ℕ → Prop} {m : ℕ} (hm : P (m + 1)) (hbefore : ∀ j < m, ¬ P (j + 1)) :
    IsLeast {i | 0 < i ∧ P i} (m + 1) := by
  refine ⟨⟨Nat.succ_pos m, hm⟩, ?_⟩
  rintro i ⟨hi, hPi⟩
  by_contra hlt
  obtain ⟨j, rfl⟩ := Nat.exists_eq_add_of_le' hi
  exact hbefore j (by omega) hPi

/-- A run that is delivered a snapshot for every tick takes them up to the first observation that ends
it, and has the verdict of that observation. Its observer is told everything up to there. -/
theorem exists_run_told (hengine : o.engine = .standard) {timing : Timing} (hvalid : timing.Valid)
    (hroom : o.HasRoom timing) {always eventually : SequenceSet} {w : ℕ → Snapshot}
    {d : TickDriver σ} {xs : List Observation} {c : Panel}
    (hdelivers : o.driver.Delivers timing.tick (upTo w timing.fullTicks) d)
    (hwatch : (⟨always, eventually, 0⟩ : Panel).watch timing.tick (upTo w timing.fullTicks) =
      .ok (xs, c)) :
    ∃ quiet x rest d', xs = quiet ++ x :: rest ∧ (∀ y ∈ quiet, ¬ y.Ends o.earlyExit) ∧
      (x.Ends o.earlyExit ∨ quiet.length + 1 = timing.fullTicks) ∧
      quiet.length < timing.fullTicks ∧ d'.ticks = x.world.tick ∧
      o.driver.Delivers timing.tick (upTo w (quiet.length + 1)) d' ∧
      o.run always eventually timing = some (.ok x.verdict,
        { o with driver := d'
                 notes := o.observer.onFinish x.verdict
                   (o.observer.told (quiet ++ [x]) o.notes) }) := by
  obtain ⟨k, quiet, x, rest, c₁, c₂, hk, rfl, rfl, hseen, hobserve, hquiet, hclose⟩ :=
    Panel.exists_closing_upTo o.earlyExit hwatch (Timing.fullTicks_pos hvalid)
  -- the driver is delivered more than the run takes: cut it off after the last tick of the run
  have hparts : upTo w timing.fullTicks = upTo w (quiet.length + 1) ++
      (upTo w timing.fullTicks).drop (quiet.length + 1) := by
    rw [← take_upTo hk, List.take_append_drop]
  rw [hparts, upTo_succ] at hdelivers
  obtain ⟨d₂, hfirst, -⟩ := hdelivers.split
  obtain ⟨d₁, hd₁, hd⟩ := hfirst.split
  cases hd with
  | cons hadvance hnil =>
    cases hnil
    have hrun := run_of_closing hengine hvalid hroom hd₁ hadvance hseen hobserve hquiet
      (by rw [length_upTo]; exact hk) (by rw [length_upTo]; exact hclose)
    obtain ⟨-, -, -, hworld, -⟩ := Panel.observe_eq_ok_iff.mp hobserve
    have hnumber := (TickDriver.ticks_of_advance hadvance).2
    rw [← hworld] at hnumber
    rw [← upTo_succ] at hfirst
    exact ⟨quiet, x, rest, d₂, rfl, hquiet, hclose, hk, hnumber, hfirst, hrun⟩

/-- The same in terms of the ticks that the driver has counted. -/
theorem exists_run_of_watch (hengine : o.engine = .standard) {timing : Timing} (hvalid : timing.Valid)
    (hroom : o.HasRoom timing) {always eventually : SequenceSet} {w : ℕ → Snapshot}
    {d : TickDriver σ} {xs : List Observation} {c : Panel}
    (hdelivers : o.driver.Delivers timing.tick (upTo w timing.fullTicks) d)
    (hwatch : (⟨always, eventually, 0⟩ : Panel).watch timing.tick (upTo w timing.fullTicks) =
      .ok (xs, c)) :
    ∃ quiet x rest o', xs = quiet ++ x :: rest ∧ (∀ y ∈ quiet, ¬ y.Ends o.earlyExit) ∧
      (x.Ends o.earlyExit ∨ quiet.length + 1 = timing.fullTicks) ∧
      quiet.length < timing.fullTicks ∧
      o.run always eventually timing =
        some (.ok (closingOutcome o'.driver.ticks x.always x.eventually), o') ∧
      o.driver.Delivers timing.tick (upTo w (quiet.length + 1)) o'.driver := by
  obtain ⟨quiet, x, rest, d', hxs, hquiet, hclose, hk, hnumber, hd, htold⟩ :=
    exists_run_told hengine hvalid hroom hdelivers hwatch
  obtain ⟨o', rfl, hrun⟩ : ∃ o' : Orchestrator σ ω, o'.driver = d' ∧
      o.run always eventually timing = some (.ok x.verdict, o') := ⟨_, rfl, htold⟩
  rw [Observation.verdict, ← hnumber] at hrun
  exact ⟨quiet, x, rest, o', hxs, hquiet, hclose, hk, hrun, hd⟩

/-- **Run law.** On a link that answers the i-th tick of a run with the snapshot `w i`, numbered next, let
`A i` and `E i` be the reports of the two sets on the i-th snapshot. The run ends with the first tick `k`
at which a sequence of the always set has failed, or an early exit is wanted and the eventually set is not
empty and has passed, or the time is used up. It has then published `k` ticks and taken `k` snapshots, and
its outcome follows from `A k` and `E k`. The sets may have been used before. -/
theorem run_eq_closingOutcome (o : Orchestrator σ ω) (hengine : o.engine = .standard)
    {always eventually : SequenceSet} (halways : always.IsTotal) (heventually : eventually.IsTotal)
    {timing : Timing} (hvalid : timing.Valid) (hroom : o.HasRoom timing) {w : ℕ → Snapshot}
    (hw : ∀ i, 0 < i → i ≤ timing.fullTicks → (w i).tick = o.driver.ticks + i) {t : σ}
    (hserves : o.driver.link.Serves (.ofSpan timing.tick) o.driver.state
      (upTo w timing.fullTicks) t) :
    ∃ (A E : ℕ → Report) (a e : SequenceSet) (k : ℕ) (o' : Orchestrator σ ω),
      always.history (upTo w timing.fullTicks) = .ok (upTo A timing.fullTicks, a) ∧
      eventually.history (upTo w timing.fullTicks) = .ok (upTo E timing.fullTicks, e) ∧
      IsLeast {i | 0 < i ∧ ((∃ r ∈ (A i).sequences, r.status = .failed) ∨
        (o.earlyExit = true ∧ eventually.sequences ≠ [] ∧
          ∀ r ∈ (E i).sequences, r.status = .passed) ∨ i = timing.fullTicks)} k ∧
      o.run always eventually timing =
        some (.ok (closingOutcome (o.driver.ticks + k) (A k) (E k)), o') ∧
      o'.driver.ticks = o.driver.ticks + k ∧
      o.driver.link.Serves (.ofSpan timing.tick) o.driver.state (upTo w k) o'.driver.state := by
  have hnumbered : NumberedFrom o.driver.ticks (upTo w timing.fullTicks) := by
    intro i hi
    rw [length_upTo] at hi
    rw [getElem_upTo, hw (i + 1) (Nat.succ_pos i) hi]
    omega
  obtain ⟨d, hdelivers, -⟩ := TickDriver.delivers_of_serves hserves hnumbered
  obtain ⟨xs, c, hwatch⟩ := Panel.watch_of_isTotal timing.tick
    (c := ⟨always, eventually, 0⟩) halways heventually (upTo w timing.fullTicks)
  obtain ⟨A, E, hA, hE, hreports⟩ := Panel.exists_reports_of_watch hwatch
  rw [length_upTo] at hA hE
  -- an observation ends the run exactly if its reports give cause to
  have hends (i : ℕ) (hi : i < xs.length) : xs[i].Ends o.earlyExit ↔
      (∃ r ∈ (A (i + 1)).sequences, r.status = .failed) ∨
        (o.earlyExit = true ∧ eventually.sequences ≠ [] ∧
          ∀ r ∈ (E (i + 1)).sequences, r.status = .passed) := by
    obtain ⟨hAi, hEi⟩ := hreports i hi
    rw [hAi, hEi, Observation.Ends, Observation.Violated, Observation.Met,
      Panel.eventually_ne_nil_of_watch hwatch xs[i] (List.getElem_mem hi)]
  obtain ⟨quiet, x, rest, o', hxs, hquiet, hclose, hk, hrun, hd⟩ :=
    exists_run_of_watch hengine hvalid hroom hdelivers hwatch
  have hlen : xs.length = timing.fullTicks := by rw [length_of_along hwatch, length_upTo]
  have hlast : quiet.length < xs.length := by omega
  have hx : xs[quiet.length] = x := by
    simp only [hxs, List.getElem_append_right, Nat.le_refl, Nat.sub_self, List.getElem_cons_zero]
  have hticks : o'.driver.ticks = o.driver.ticks + (quiet.length + 1) := by
    rw [hd.ticks, length_upTo]
  refine ⟨A, E, c.always, c.eventually, quiet.length + 1, o', hA, hE, isLeast_succ ?_ ?_, ?_, hticks,
    hd.serves⟩
  · obtain hxends | hfull := hclose
    · have hcause := (hends quiet.length hlast).mp (hx.symm ▸ hxends)
      exact hcause.imp_right Or.inl
    · exact Or.inr (Or.inr hfull)
  · -- before, every observation was quiet and there was time left
    intro j hj hcause
    have hjx : j < xs.length := by omega
    have hxj : xs[j] = quiet[j] := by
      simp only [hxs, List.getElem_append_left hj]
    have hgoes := hquiet quiet[j] (List.getElem_mem hj)
    rw [← hxj, hends j hjx] at hgoes
    rcases hcause with hv | hm | htime
    · exact hgoes (Or.inl hv)
    · exact hgoes (Or.inr hm)
    · omega
  · obtain ⟨hAk, hEk⟩ := hreports quiet.length hlast
    rw [hrun, hAk, hEk, hx, hticks]

/-- An orchestrator in use, three ticks in: its next run could take three ticks and ends early with the
second. -/
theorem run_eq_closingOutcome_in_use :
    let timing : Timing := ⟨⟨25, by decide⟩, ⟨10, by decide⟩⟩
    let o : Orchestrator Playback Unit :=
      { driver := { link := Playback.link
                    state := { answers := [.ok (.empty 4 0.0), .ok (.empty 5 0.0),
                      .ok (.empty 6 0.0)] }
                    clock := ⟨30⟩, ticks := 3 }
        observer := .idle, notes := (), earlyExit := true }
    let eventually : SequenceSet := ⟨[.fresh "arrival" [.total "at five" fun w =>
      if w.tick = 5 then .passed else .pending]]⟩
    timing.Valid ∧ o.HasRoom timing ∧ eventually.IsTotal ∧
      ∃ o', o.run {} eventually timing = some (.ok .passed, o') ∧ o'.driver.ticks = 5 := by
  intro timing o eventually
  have hvalid : timing.Valid := by decide
  have hfull : timing.fullTicks = 3 := by
    rw [Timing.fullTicks, Nat.ceilDiv_eq_add_pred_div]
    show (25 + 10 - 1) / 10 = 3
    rfl
  have hroom : o.HasRoom timing := ⟨by decide, by rw [hfull]; decide⟩
  have halways : SequenceSet.IsTotal {} := SequenceSet.isTotal_empty
  have heventually : eventually.IsTotal :=
    SequenceSet.isTotal_fresh (List.forall_mem_singleton.mpr (Predicate.isTotal_total _ _))
  refine ⟨hvalid, hroom, heventually, ?_⟩
  obtain ⟨A, E, a, e, k, o', ha, he, hk, hrun, hticks, -⟩ := run_eq_closingOutcome o rfl halways
    heventually hvalid hroom (w := fun i => .empty (3 + i) 0.0) (fun i _ _ => rfl)
    (t := { answers := [], published := 3 })
    (by
      rw [hfull]
      exact .cons rfl rfl (.cons rfl rfl (.cons rfl rfl (.nil _))))
  rw [hfull] at ha he hk
  have hA : upTo A 3 = [⟨4, []⟩, ⟨5, []⟩, ⟨6, []⟩] :=
    (Prod.mk.inj (Except.ok.inj (ha.symm.trans rfl))).1
  have hE : upTo E 3 = [⟨4, [⟨"arrival", .pending, some "at five", 0, 1, none⟩]⟩,
      ⟨5, [⟨"arrival", .passed, none, 1, 1, none⟩]⟩,
      ⟨6, [⟨"arrival", .passed, none, 1, 1, none⟩]⟩] :=
    (Prod.mk.inj (Except.ok.inj (he.symm.trans rfl))).1
  have hA₁ : A 1 = ⟨4, []⟩ := Option.some.inj (congrArg (·[0]?) hA)
  have hA₂ : A 2 = ⟨5, []⟩ := Option.some.inj (congrArg (·[1]?) hA)
  have hE₁ : E 1 = ⟨4, [⟨"arrival", .pending, some "at five", 0, 1, none⟩]⟩ :=
    Option.some.inj (congrArg (·[0]?) hE)
  have hE₂ : E 2 = ⟨5, [⟨"arrival", .passed, none, 1, 1, none⟩]⟩ :=
    Option.some.inj (congrArg (·[1]?) hE)
  -- the second tick gives cause to end, the first one does not
  have hsecond : k ≤ 2 := by
    apply hk.2
    exact ⟨by decide, Or.inr (Or.inl ⟨rfl, by simp [eventually], by simp [hE₂]⟩)⟩
  have hfirst : k ≠ 1 := by
    rintro rfl
    simpa [hA₁, hE₁] using hk.1
  obtain rfl : k = 2 := by
    have hpos := hk.1.1
    omega
  refine ⟨o', ?_, hticks⟩
  rw [hrun, hA₂, hE₂]
  rfl

end Orchestrator

end Lockstep
