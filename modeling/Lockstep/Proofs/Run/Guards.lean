import Lockstep.Proofs.Run.EarlyExit
import Lockstep.Proofs.Validation.Extension

namespace Lockstep

namespace Observation

variable {x x' : Observation}

theorem Violated.of_sublist (h : x.always.sequences.Sublist x'.always.sequences) (hv : x.Violated) :
    x'.Violated := by
  obtain ⟨r, hr, hstatus⟩ := hv
  exact ⟨r, h.subset hr, hstatus⟩

theorem verdict_eq_failedAlways_iff {f : Failure} :
    x.verdict = .failedAlways f ↔
      x.Violated ∧ f = ⟨.always, x.world.tick, x.always.offending .always⟩ := by
  rw [verdict_eq, violated_iff]
  constructor
  · intro h
    split at h
    · rename_i hv
      cases h
      exact ⟨hv, rfl⟩
    · split at h <;> cases h
  · rintro ⟨hv, rfl⟩
    rw [if_pos hv]

theorem verdict_eq_passed_iff :
    x.verdict = .passed ↔ ¬ x.Violated ∧ ∀ r ∈ x.eventually.sequences, r.status = .passed := by
  rw [verdict_eq, violated_iff, ← Report.offending_eventually_eq_nil_iff]
  by_cases hv : x.always.offending .always = []
  · by_cases hm : x.eventually.offending .eventually = [] <;> simp [hv, hm]
  · simp [hv]

/-- Where no always sequence has failed, the always set has no part in the verdict. -/
theorem verdict_congr (hv : ¬ x.Violated) (hv' : ¬ x'.Violated) (hworld : x.world = x'.world)
    (heventually : x.eventually = x'.eventually) : x.verdict = x'.verdict := by
  rw [violated_iff] at hv hv'
  rw [verdict_eq, verdict_eq, if_neg hv, if_neg hv', hworld, heventually]

theorem offending_sublist (h : x.always.sequences.Sublist x'.always.sequences) :
    (x.always.offending .always).Sublist (x'.always.offending .always) :=
  h.filter _

end Observation

namespace Orchestrator

variable {σ ω : Type} {o : Orchestrator σ ω}

section

variable (hengine : o.engine = .standard) {timing : Timing} (hvalid : timing.Valid)
  (hroom : o.HasRoom timing) {w : ℕ → Snapshot} {d : TickDriver σ}
  (hdelivers : o.driver.Delivers timing.tick (upTo w timing.fullTicks) d)

include hengine hvalid hroom hdelivers

/-- The run with more always sequences against the run without them. -/
theorem run_of_more_guards {always always' eventually a a' e : SequenceSet} {A A' E : ℕ → Report}
    (hsub : always.sequences.Sublist always'.sequences)
    (hA : always.history (upTo w timing.fullTicks) = .ok (upTo A timing.fullTicks, a))
    (hA' : always'.history (upTo w timing.fullTicks) = .ok (upTo A' timing.fullTicks, a'))
    (hE : eventually.history (upTo w timing.fullTicks) = .ok (upTo E timing.fullTicks, e)) :
    ∃ (k k' : ℕ) (outcome outcome' : Outcome),
      o.RunObserves always eventually timing (.ofReports timing.tick w A E) k outcome ∧
      o.RunObserves always' eventually timing (.ofReports timing.tick w A' E) k' outcome' ∧
      ((∀ f', outcome' ≠ .failedAlways f') → outcome = outcome' ∧ k = k') ∧
      (∀ f', outcome' = .failedAlways f' → f'.tick = o.driver.ticks + k' ∧ k' ≤ k ∧
        ∀ f, outcome = .failedAlways f → f.tick = f'.tick → f.sequences.Sublist f'.sequences) ∧
      (∀ f, outcome = .failedAlways f →
        ∃ f', outcome' = .failedAlways f' ∧ f'.tick ≤ f.tick) := by
  let x := Observation.ofReports timing.tick w A E
  let x' := Observation.ofReports timing.tick w A' E
  -- with the last of the ticks numbered `k + 1` and `k' + 1`
  obtain ⟨k, hk, hquiet, hclose, htick, hrun⟩ :=
    exists_runObserves hengine hvalid hroom hdelivers hA hE
  obtain ⟨k', hk', hquiet', hclose', htick', hrun'⟩ :=
    exists_runObserves hengine hvalid hroom hdelivers hA' hE
  have hreports (i : ℕ) (hi : i < timing.fullTicks) :
      (x (i + 1)).always.sequences.Sublist (x' (i + 1)).always.sequences :=
    (SequenceSet.sublist_of_history hsub hA hA').2 (i + 1) (Nat.succ_pos i) hi
  -- what ends the run without the further guards ends the run with them, too
  have hle : k' ≤ k := by
    by_contra hlt
    have hends : (x (k + 1)).Ends o.earlyExit := hclose.resolve_right (by omega)
    have hends' : (x' (k + 1)).Ends o.earlyExit :=
      hends.imp_left (Observation.Violated.of_sublist (hreports k hk))
    exact hquiet' (k + 1) (Nat.succ_pos k) (by omega) hends'
  -- and if no guard ends the run, something does that the two runs have in common
  have hsame (hv : ¬ (x' (k' + 1)).Violated) : k = k' := by
    by_contra hne
    have hends' : (x' (k' + 1)).Ends o.earlyExit := hclose'.resolve_right (by omega)
    have hmet : o.earlyExit = true ∧ (x (k' + 1)).Met := hends'.resolve_left hv
    exact hquiet (k' + 1) (Nat.succ_pos k') (by omega) (Or.inr hmet)
  refine ⟨k + 1, k' + 1, _, _, hrun, hrun', ?_, ?_, ?_⟩
  · intro hne
    have hv' : ¬ (x' (k' + 1)).Violated := by
      intro hv
      exact hne _ (Observation.verdict_eq_failedAlways_iff.mpr ⟨hv, rfl⟩)
    obtain rfl := hsame hv'
    have hv : ¬ (x (k + 1)).Violated := fun hv => hv' (hv.of_sublist (hreports k hk))
    exact ⟨Observation.verdict_congr hv hv' rfl rfl, rfl⟩
  · intro f' hf'
    obtain ⟨-, rfl⟩ := Observation.verdict_eq_failedAlways_iff.mp hf'
    refine ⟨htick', by omega, ?_⟩
    intro f hf hticks
    obtain ⟨-, rfl⟩ := Observation.verdict_eq_failedAlways_iff.mp hf
    have hnumber : (w (k + 1)).tick = (w (k' + 1)).tick := hticks
    obtain rfl : k = k' := by omega
    exact Observation.offending_sublist (hreports k hk)
  · intro f hf
    obtain ⟨hv, rfl⟩ := Observation.verdict_eq_failedAlways_iff.mp hf
    have hv' : (x' (k' + 1)).Violated := by
      by_contra hv'
      obtain rfl := hsame hv'
      exact hv' (hv.of_sublist (hreports k hk))
    refine ⟨_, Observation.verdict_eq_failedAlways_iff.mpr ⟨hv', rfl⟩, ?_⟩
    show (w (k' + 1)).tick ≤ (w (k + 1)).tick
    omega

/-- The run with more eventually sequences against the run without them, if there is no early exit. -/
theorem run_of_more_goals (hexit : o.earlyExit = false)
    {always eventually eventually' a e e' : SequenceSet} {A E E' : ℕ → Report}
    (hsub : eventually.sequences.Sublist eventually'.sequences)
    (hA : always.history (upTo w timing.fullTicks) = .ok (upTo A timing.fullTicks, a))
    (hE : eventually.history (upTo w timing.fullTicks) = .ok (upTo E timing.fullTicks, e))
    (hE' : eventually'.history (upTo w timing.fullTicks) = .ok (upTo E' timing.fullTicks, e')) :
    ∃ (k : ℕ) (outcome outcome' : Outcome),
      o.RunObserves always eventually timing (.ofReports timing.tick w A E) k outcome ∧
      o.RunObserves always eventually' timing (.ofReports timing.tick w A E') k outcome' ∧
      (outcome' = .passed → outcome = .passed) ∧
      (∀ f, outcome = .failedAlways f → outcome' = .failedAlways f) := by
  obtain ⟨k, hk, hquiet, hclose, -, hrun⟩ :=
    exists_runObserves hengine hvalid hroom hdelivers hA hE
  obtain ⟨k', hk', hquiet', hclose', -, hrun'⟩ :=
    exists_runObserves hengine hvalid hroom hdelivers hA hE'
  rw [hexit] at hquiet hclose hquiet' hclose'
  simp only [Observation.ends_false_iff] at hquiet hclose hquiet' hclose'
  -- only the always set can end either run before its time is up
  obtain rfl : k = k' := by
    by_contra hne
    obtain hlt | hlt := Nat.lt_or_gt_of_ne hne
    · exact hquiet' (k + 1) (Nat.succ_pos k) (by omega) (hclose.resolve_right (by omega))
    · exact hquiet (k' + 1) (Nat.succ_pos k') (by omega) (hclose'.resolve_right (by omega))
  refine ⟨k + 1, _, _, hrun, hrun', ?_, ?_⟩
  · intro hpassed
    obtain ⟨hv, hall⟩ := Observation.verdict_eq_passed_iff.mp hpassed
    have hreports : (E (k + 1)).sequences.Sublist (E' (k + 1)).sequences :=
      (SequenceSet.sublist_of_history hsub hE hE').2 (k + 1) (Nat.succ_pos k) hk
    exact Observation.verdict_eq_passed_iff.mpr ⟨hv, fun r hr => hall r (hreports.subset hr)⟩
  · intro f hf
    obtain ⟨hv, rfl⟩ := Observation.verdict_eq_failedAlways_iff.mp hf
    exact Observation.verdict_eq_failedAlways_iff.mpr ⟨hv, rfl⟩

end

/-- There is one run only. -/
theorem RunObserves.eq_of_run {always eventually : SequenceSet} {timing : Timing} {x : ℕ → Observation}
    {n : ℕ} {outcome outcome' : Outcome} {o' : Orchestrator σ ω}
    (h : o.RunObserves always eventually timing x n outcome)
    (hrun : o.run always eventually timing = some (.ok outcome', o')) :
    outcome = outcome' ∧ o'.driver.ticks = o.driver.ticks + n := by
  obtain ⟨o₁, hrun₁, hticks, -⟩ := h
  obtain ⟨houtcome, rfl⟩ := Prod.mk.inj (Option.some.inj (hrun₁.symm.trans hrun))
  exact ⟨Except.ok.inj houtcome, hticks⟩

/-- A timing that is refused ends a run before its first tick, whatever its sets are. -/
theorem exists_runObserves_of_not_valid {timing : Timing} (hvalid : ¬ timing.Valid) :
    ∃ e, ∀ (always eventually : SequenceSet) (x : ℕ → Observation),
      o.RunObserves always eventually timing x 0 (.failedException (.ofTiming e)) := by
  obtain ⟨e, hvalidate⟩ := Timing.exists_validate_eq_error hvalid
  refine ⟨e, ?_⟩
  intro always eventually x
  refine ⟨o.finish (.failedException (.ofTiming e)), ?_, rfl, rfl⟩
  rw [run, hvalidate]

/-- **Guards can only be strengthened.** Two sets are given more sequences, at any places, and the runs are
made on one history. With the further always sequences a run that does not fail by them has the same
outcome, the same ticks and the same eventually reports; one that does fail takes no more ticks than before,
and names all always sequences that would have failed at that tick anyway. A run that fails by its always
set still does so with the further sequences, and no later. Without an early exit, further eventually
sequences never make a run pass, and do not change that it fails by its always set. -/
theorem run_of_more_sequences (o : Orchestrator σ ω) (hengine : o.engine = .standard)
    {always always' eventually eventually' : SequenceSet}
    (hguards : always.sequences.Sublist always'.sequences)
    (hgoals : eventually.sequences.Sublist eventually'.sequences) (halways : always'.IsTotal)
    (heventually : eventually'.IsTotal) {timing : Timing} (hroom : timing.Valid → o.HasRoom timing)
    {w : ℕ → Snapshot} (hw : ∀ i, 0 < i → i ≤ timing.fullTicks → (w i).tick = o.driver.ticks + i)
    {t : σ} (hserves : o.driver.link.Serves (.ofSpan timing.tick) o.driver.state
      (upTo w timing.fullTicks) t) :
    ∃ (A A' E E' : ℕ → Report) (a a' e e' : SequenceSet),
      always.history (upTo w timing.fullTicks) = .ok (upTo A timing.fullTicks, a) ∧
      always'.history (upTo w timing.fullTicks) = .ok (upTo A' timing.fullTicks, a') ∧
      eventually.history (upTo w timing.fullTicks) = .ok (upTo E timing.fullTicks, e) ∧
      eventually'.history (upTo w timing.fullTicks) = .ok (upTo E' timing.fullTicks, e') ∧
      (∃ (k k' : ℕ) (outcome outcome' : Outcome),
        o.RunObserves always eventually timing (.ofReports timing.tick w A E) k outcome ∧
        o.RunObserves always' eventually timing (.ofReports timing.tick w A' E) k' outcome' ∧
        ((∀ f', outcome' ≠ .failedAlways f') → outcome = outcome' ∧ k = k') ∧
        (∀ f', outcome' = .failedAlways f' → f'.tick = o.driver.ticks + k' ∧ k' ≤ k ∧
          ∀ f, outcome = .failedAlways f → f.tick = f'.tick → f.sequences.Sublist f'.sequences) ∧
        (∀ f, outcome = .failedAlways f →
          ∃ f', outcome' = .failedAlways f' ∧ f'.tick ≤ f.tick)) ∧
      (o.earlyExit = false → ∃ (k : ℕ) (outcome outcome' : Outcome),
        o.RunObserves always eventually timing (.ofReports timing.tick w A E) k outcome ∧
        o.RunObserves always eventually' timing (.ofReports timing.tick w A E') k outcome' ∧
        (outcome' = .passed → outcome = .passed) ∧
        (∀ f, outcome = .failedAlways f → outcome' = .failedAlways f)) := by
  obtain ⟨A, a, hA⟩ :=
    SequenceSet.exists_history_upTo (.of_sublist hguards halways) w timing.fullTicks
  obtain ⟨A', a', hA'⟩ := SequenceSet.exists_history_upTo halways w timing.fullTicks
  obtain ⟨E, e, hE⟩ :=
    SequenceSet.exists_history_upTo (.of_sublist hgoals heventually) w timing.fullTicks
  obtain ⟨E', e', hE'⟩ := SequenceSet.exists_history_upTo heventually w timing.fullTicks
  refine ⟨A, A', E, E', a, a', e, e', hA, hA', hE, hE', ?_⟩
  by_cases hvalid : timing.Valid
  · obtain ⟨d, hdelivers, -⟩ :=
      TickDriver.delivers_of_serves hserves (numberedFrom_upTo_iff.mpr hw)
    refine ⟨run_of_more_guards hengine hvalid (hroom hvalid) hdelivers hguards hA hA' hE, ?_⟩
    intro hexit
    exact run_of_more_goals hengine hvalid (hroom hvalid) hdelivers hexit hgoals hA hE hE'
  · -- all runs are refused alike
    obtain ⟨err, hrun⟩ := exists_runObserves_of_not_valid (o := o) hvalid
    refine ⟨⟨0, 0, _, _, hrun _ _ _, hrun _ _ _, fun _ => ⟨rfl, rfl⟩, ?_, ?_⟩, fun _ =>
      ⟨0, _, _, hrun _ _ _, hrun _ _ _, id, fun _ => id⟩⟩
    · intro f' hf'
      cases hf'
    · intro f hf
      cases hf

/-- Three ticks. The guard fails at the third, and the one that is put before it at the second. -/
theorem run_of_more_sequences_earlier_guard :
    let timing : Timing := ⟨⟨25, by decide⟩, ⟨10, by decide⟩⟩
    let o : Orchestrator Playback Unit :=
      { driver := { link := Playback.link
                    state := { answers := [.ok (.empty 1 0.0), .ok (.empty 2 0.0),
                      .ok (.empty 3 0.0)] } }
        observer := .idle, notes := () }
    let before (n : ℕ) : Sequence := .fresh "guard" [.total "before" fun w =>
      if n ≤ w.tick then .failed "late" else .pending]
    let always : SequenceSet := ⟨[before 3]⟩
    let always' : SequenceSet := ⟨[before 2, before 3]⟩
    timing.Valid ∧ o.HasRoom timing ∧ always.sequences.Sublist always'.sequences ∧
      always'.IsTotal ∧ ∃ (x x' : ℕ → Observation) (f f' : Failure),
        o.RunObserves always {} timing x 3 (.failedAlways f) ∧
        o.RunObserves always' {} timing x' 2 (.failedAlways f') ∧ f'.tick ≤ f.tick := by
  intro timing o before always always'
  have hvalid : timing.Valid := by decide
  have hfull : timing.fullTicks = 3 := by
    rw [Timing.fullTicks, Nat.ceilDiv_eq_add_pred_div]
    show (25 + 10 - 1) / 10 = 3
    rfl
  have hroom : o.HasRoom timing := .of_fresh hvalid (by decide) rfl rfl
  have hsub : always.sequences.Sublist always'.sequences := List.sublist_cons_self _ _
  have htotal : always'.IsTotal := by
    intro q hq
    obtain rfl | hq := List.mem_cons.mp hq
    · exact List.forall_mem_singleton.mpr (Predicate.isTotal_total _ _)
    · obtain rfl := List.mem_singleton.mp hq
      exact List.forall_mem_singleton.mpr (Predicate.isTotal_total _ _)
  obtain ⟨A, A', E, -, a, a', e, -, -, -, -, -,
      ⟨k, k', outcome, outcome', hrun, hrun', -, -, hearlier⟩, -⟩ :=
    run_of_more_sequences o rfl hsub (List.Sublist.refl []) htotal SequenceSet.isTotal_empty
      (fun _ => hroom) (w := fun i => .empty i 0.0) (fun i _ _ => (Nat.zero_add i).symm)
      (t := { answers := [], published := 3 })
      (by
        rw [hfull]
        exact .cons rfl rfl (.cons rfl rfl (.cons rfl rfl (.nil _))))
  obtain ⟨f, o₁, hfirst, hticks⟩ : ∃ f o₁, o.run always {} timing = some (.ok (.failedAlways f), o₁) ∧
      o₁.driver.ticks = 3 := ⟨_, _, rfl, rfl⟩
  obtain ⟨f', o₂, hsecond, hticks'⟩ : ∃ f' o₂, o.run always' {} timing =
      some (.ok (.failedAlways f'), o₂) ∧ o₂.driver.ticks = 2 := ⟨_, _, rfl, rfl⟩
  obtain ⟨rfl, hk⟩ := hrun.eq_of_run hfirst
  obtain ⟨rfl, hk'⟩ := hrun'.eq_of_run hsecond
  have hstart : o.driver.ticks = 0 := rfl
  obtain rfl : k = 3 := by omega
  obtain rfl : k' = 2 := by omega
  obtain ⟨g, hg, hle⟩ := hearlier f rfl
  cases hg
  exact ⟨hvalid, hroom, hsub, htotal, _, _, f, f', hrun, hrun', hle⟩

end Orchestrator

end Lockstep
