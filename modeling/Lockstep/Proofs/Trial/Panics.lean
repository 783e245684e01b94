import Lockstep.Proofs.Trial.Endings
import Lockstep.Proofs.Validation.Breaking
import Lockstep.Validation.Script

namespace Lockstep

namespace Panel

/-- What breaks off the observation of a snapshot whose number is new to both sets. -/
theorem observe_eq_error_iff_firstBreaks {tick : Span} {c : Panel} {w : Snapshot} {panic : Panic}
    (hnew : ∀ q ∈ c.eventually.sequences ++ c.always.sequences, ∀ r, q.last ≠ some (w.tick, r)) :
    c.observe tick w = .error panic ↔
      Sequence.FirstBreaks (c.eventually.sequences ++ c.always.sequences) w panic := by
  rw [observe_eq_error_iff, ← SequenceSet.evaluateAll_eq_error_iff hnew,
    SequenceSet.evaluateAll_append_eq_error_iff]
  simp only [ne_eq, ← SequenceSet.evaluate_eq_error_iff]
  -- both sides speak of the always set only where the eventually set has given its report
  cases c.eventually.evaluate w with
  | error found => simp only [reduceCtorEq, false_and, exists_false, Except.error.injEq, forall_eq']
  | ok found => simp only [reduceCtorEq, Except.ok.injEq, exists_eq_left', not_false_eq_true,
      implies_true, true_and]

end Panel

namespace Trial

variable {config : Config} {always eventually a e : SequenceSet}

/-- **First panic.** A trial without faults takes `n` ticks, with the reports `A 1` to `A n` of its always
set and `E 1` to `E n` of its eventually set, which give no cause to end, and there is time left for the
next one. On the snapshot of that tick predicates break off, and of the sequences whose active predicate
does so the first one, of the eventually set before the always set, breaks off with `panic`. Then this is
the outcome of the trial, with a display and without. It took `n + 1` ticks, the field answered all of
them, and the observers were told the first `n` and nothing else. -/
theorem run_of_firstBreaks (hvalid : config.timing.Valid)
    (hroom : config.timing.timeout.nanos + config.timing.tick.nanos ≤ 2 ^ 64) (field : Field)
    (halways : always.IsFresh) (heventually : eventually.IsFresh) {n : ℕ}
    (hlt : n < config.timing.fullTicks) {w : ℕ → Snapshot}
    (hw : w = FieldServer.answer { field } (.ofSpan config.timing.tick)) {A E : ℕ → Report}
    (hA : always.history (upTo w n) = .ok (upTo A n, a))
    (hE : eventually.history (upTo w n) = .ok (upTo E n, e))
    (hgoes : ∀ i, 0 < i → i ≤ n → (∀ r ∈ (A i).sequences, r.status ≠ .failed) ∧
      ¬ (config.earlyExit = true ∧ eventually.sequences ≠ [] ∧
        ∀ r ∈ (E i).sequences, r.status = .passed)) {panic : Panic}
    (hbreaks : Sequence.FirstBreaks (e.sequences ++ a.sequences) (w (n + 1)) panic) :
    ∃ R : TestRun, R.outcome = .failedException (.panicked panic.message) ∧ R.ticks = n + 1 ∧
      R.published = n + 1 ∧ R.elapsed.nanos = (n + 1) * config.timing.tick.nanos ∧
      R.server.map (·.ticksServed) = some (n + 1) ∧
      ∀ {ω : Type} (display : Display) (observer : Observer ω) (notes : ω),
        run config display { field, always, eventually } observer notes =
          some (R, observer.told (upTo (.ofReports config.timing.tick w A E) n) notes,
            displayAfter config display) := by
  have hwatch := Panel.watch_of_histories config.timing.tick hA hE
  have hquiet : ∀ y ∈ upTo (Observation.ofReports config.timing.tick w A E) n,
      ¬ y.Ends config.earlyExit := by
    intro y hy hends
    obtain ⟨i, hpos, hi, rfl⟩ := mem_upTo.mp hy
    obtain ⟨hfailed, hmet⟩ := hgoes i hpos hi
    obtain ⟨r, hr, hstatus⟩ | ⟨hexit, hne, hpassed⟩ := hends
    · exact hfailed r hr hstatus
    · have hsome := Panel.eventually_ne_nil_of_watch hwatch _ hy
      exact hmet ⟨hexit, hsome.mp hne, hpassed⟩
  -- the sets have not seen the next number yet, so they put the snapshot to their predicates
  have hnumber (i : ℕ) : (w (i + 1)).tick = i + 1 := by
    rw [hw, FieldServer.tick_answer, Nat.zero_add]
  have hnew : ∀ q ∈ e.sequences ++ a.sequences, ∀ r, q.last ≠ some ((w (n + 1)).tick, r) := by
    intro q hq
    obtain hq | hq := List.mem_append.mp hq
    · exact SequenceSet.last_ne_of_history heventually hnumber hE q hq
    · exact SequenceSet.last_ne_of_history halways hnumber hA q hq
  have hobserve : (⟨a, e, n⟩ : Panel).observe config.timing.tick (w (n + 1)) = .error panic :=
    (Panel.observe_eq_error_iff_firstBreaks hnew).mpr hbreaks
  have hfit := Timing.mul_lt_of_le_fullTicks hvalid (show n + 1 ≤ config.timing.fullTicks from hlt)
  have hserved := FieldServer.served_afterTicks { field } (.ofSpan config.timing.tick) (n + 1)
  rw [Nat.zero_add] at hserved
  subst hw
  refine ⟨.afterTicks (.failedException (.ofPanic panic)) config.timing.tick (n + 1)
    (FieldServer.afterTicks { field } (.ofSpan config.timing.tick) (n + 1)).report, rfl, rfl, rfl,
    Span.nanos_times (by omega), congrArg some hserved, ?_⟩
  exact run_of_break hvalid hroom hwatch hquiet hlt (FaultPlan.allows_none (n + 1)) hobserve

/-- On the second tick a sequence of the always set fails, another one breaks off, and so does the second
predicate of the eventually set, which was not asked before. -/
theorem run_of_firstBreaks_second_tick :
    let config : Config := {}
    let always : SequenceSet := ⟨[
      .fresh "guard" [.scripted "stays" [⟨2, 2, .ok (.failed "out")⟩]],
      .fresh "sensor" [.scripted "reads" [⟨2, 9, .error .other⟩]]]⟩
    let eventually : SequenceSet := ⟨[
      .fresh "arrival" [.scripted "leaves" [⟨1, 1, .ok .passed⟩],
        .scripted "arrives" [⟨1, 1, .error .other⟩, ⟨2, 2, .error (.text "no map")⟩]]]⟩
    config.timing.Valid ∧ config.timing.timeout.nanos + config.timing.tick.nanos ≤ 2 ^ 64 ∧
      always.IsFresh ∧ eventually.IsFresh ∧
      ∃ (R : TestRun) (x : Observation), R.outcome = .failedException (.panicked "no map") ∧
        R.ticks = 2 ∧ R.server.map (·.ticksServed) = some 2 ∧
        run config (.waiting {}) { field := .ofSeed 0, always, eventually } .recorder {} =
          some (R, { ticks := #[x] }, .waiting {}) := by
  intro config always eventually
  have hvalid : config.timing.Valid := by decide
  have hroom : config.timing.timeout.nanos + config.timing.tick.nanos ≤ 2 ^ 64 := by decide
  have halways : always.IsFresh := by
    intro q hq
    obtain rfl | hq := List.mem_cons.mp hq
    · exact ⟨_, _, rfl⟩
    · obtain rfl := List.mem_singleton.mp hq
      exact ⟨_, _, rfl⟩
  have heventually : eventually.IsFresh := by
    intro q hq
    obtain rfl := List.mem_singleton.mp hq
    exact ⟨_, _, rfl⟩
  refine ⟨hvalid, hroom, halways, heventually, ?_⟩
  have hlt : 1 < config.timing.fullTicks := (Timing.lt_fullTicks_iff hvalid 1).mpr (by decide)
  -- after the first tick the eventually set waits for the predicate that will break off
  obtain ⟨R, houtcome, hticks, -, -, hserved, hrun⟩ := run_of_firstBreaks hvalid hroom (.ofSeed 0)
    halways heventually hlt rfl
    (A := fun _ => ⟨1, [⟨"guard", .pending, some "stays", 0, 1, none⟩,
      ⟨"sensor", .pending, some "reads", 0, 1, none⟩]⟩)
    (E := fun _ => ⟨1, [⟨"arrival", .pending, some "arrives", 1, 2, none⟩]⟩) rfl rfl
    (fun i _ _ => ⟨by decide, by decide⟩)
    ⟨[], _, _, rfl, fun q hq => (List.not_mem_nil hq).elim, _, rfl, Or.inl rfl⟩
  exact ⟨R, _, houtcome, hticks, hserved, hrun _ _ _⟩

end Trial

end Lockstep
