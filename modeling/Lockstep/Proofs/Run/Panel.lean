import Lockstep.Proofs.Time.Pace
import Lockstep.Proofs.Validation.History
import Lockstep.Run.Observer

/-!
What a run sees of a history. A panel is the two sets that judge a run; `Panel.watch` gives the
observations that the run makes of the snapshots if nothing ends it. `Observation.Ends` says which
observation ends a run before its time is up, and `Panel.exists_closing` finds the first one.
-/

namespace Lockstep

namespace Observation

/-- A sequence of the always set has failed. -/
def Violated (x : Observation) : Prop := ∃ r ∈ x.always.sequences, r.status = .failed

/-- There are sequences in the eventually set, and all of them have passed. -/
def Met (x : Observation) : Prop :=
  x.eventually.sequences ≠ [] ∧ ∀ r ∈ x.eventually.sequences, r.status = .passed

/-- What a run observes on its i-th snapshot, with the i-th reports of its two sets. -/
def ofReports (tick : Span) (w : ℕ → Snapshot) (A E : ℕ → Report) (i : ℕ) : Observation :=
  ⟨tick.times i, w i, E i, A i⟩

/-- The observation ends a run, however much time is left. -/
def Ends (earlyExit : Bool) (x : Observation) : Prop := x.Violated ∨ (earlyExit = true ∧ x.Met)

end Observation

/-- The outcome of a run that ends at a tick with these reports: the failed sequences of the always set
come first, then the sequences of the eventually set that have not passed. -/
def closingOutcome (tick : ℕ) (always eventually : Report) : Outcome :=
  let failed := always.sequences.filter (·.status = .failed)
  let unmet := eventually.sequences.filter (·.status ≠ .passed)
  if failed ≠ [] then .failedAlways ⟨.always, tick, failed⟩
  else if unmet ≠ [] then .failedEventually ⟨.eventually, tick, unmet⟩
  else .passed

/-- The outcome of a run that ends with the observation. -/
def Observation.verdict (x : Observation) : Outcome :=
  closingOutcome x.world.tick x.always x.eventually

namespace Report

theorem offending_always (r : Report) :
    r.offending .always = r.sequences.filter (·.status = .failed) := by
  unfold offending Rule.broken
  simp only [← Bool.beq_eq_decide_eq]

theorem offending_eventually (r : Report) :
    r.offending .eventually = r.sequences.filter (·.status ≠ .passed) := by
  unfold offending Rule.broken
  congr 1
  funext s
  cases s.status <;> rfl

theorem check_of_offending_nil {r : Report} {rule : Rule} (h : r.offending rule = []) :
    r.check rule = .ok () :=
  check_eq_ok_iff.mpr (offending_eq_nil_iff.mp h)

theorem check_of_offending_ne_nil {r : Report} {rule : Rule} (h : r.offending rule ≠ []) :
    r.check rule = .error ⟨rule, r.tick, r.offending rule⟩ :=
  check_eq_error_iff.mpr ⟨h, rfl⟩

theorem isOk_check_iff {r : Report} {rule : Rule} :
    (r.check rule).isOk = true ↔ r.offending rule = [] := by
  by_cases h : r.offending rule = []
  · rw [check_of_offending_nil h]
    exact ⟨fun _ => h, fun _ => rfl⟩
  · rw [check_of_offending_ne_nil h]
    exact ⟨fun hok => (Bool.false_ne_true hok).elim, fun hnil => absurd hnil h⟩

theorem offending_always_ne_nil_iff (r : Report) :
    r.offending .always ≠ [] ↔ ∃ s ∈ r.sequences, s.status = .failed := by
  rw [offending_always, ne_eq, List.filter_eq_nil_iff]
  simp only [decide_eq_true_eq, not_forall, not_not, exists_prop]

theorem offending_eventually_eq_nil_iff (r : Report) :
    r.offending .eventually = [] ↔ ∀ s ∈ r.sequences, s.status = .passed := by
  rw [offending_eventually, List.filter_eq_nil_iff]
  simp only [ne_eq, decide_not, Bool.not_eq_true', decide_eq_false_iff_not, not_not]

end Report

namespace Observation

theorem violated_iff {x : Observation} : x.Violated ↔ x.always.offending .always ≠ [] :=
  (Report.offending_always_ne_nil_iff x.always).symm

theorem met_iff {x : Observation} :
    x.Met ↔ x.eventually.sequences ≠ [] ∧ x.eventually.offending .eventually = [] := by
  rw [Met, Report.offending_eventually_eq_nil_iff]

/-- The outcome in terms of the two rules. -/
theorem verdict_eq (x : Observation) :
    x.verdict =
      if x.always.offending .always ≠ [] then
        .failedAlways ⟨.always, x.world.tick, x.always.offending .always⟩
      else if x.eventually.offending .eventually ≠ [] then
        .failedEventually ⟨.eventually, x.world.tick, x.eventually.offending .eventually⟩
      else .passed := by
  rw [verdict, closingOutcome, Report.offending_always, Report.offending_eventually]

end Observation

/-- The two sets that judge a run, and the number of snapshots they have seen in it. -/
structure Panel where
  always : SequenceSet
  eventually : SequenceSet
  seen : ℕ := 0

namespace Panel

/-- What a run with ticks of the given length makes of its next snapshot. The eventually set is asked
first. -/
def observe (tick : Span) (c : Panel) (w : Snapshot) : Except Panic (Observation × Panel) :=
  match c.eventually.evaluate w with
  | .error panic => .error panic
  | .ok (eventually, e) =>
    match c.always.evaluate w with
    | .error panic => .error panic
    | .ok (always, a) =>
      .ok (⟨tick.times (c.seen + 1), w, eventually, always⟩, ⟨a, e, c.seen + 1⟩)

/-- What a run makes of a history, if nothing ends it. -/
def watch (tick : Span) (c : Panel) (ws : List Snapshot) :
    Except Panic (List Observation × Panel) :=
  along (observe tick) c ws

theorem observe_eq_ok_iff {tick : Span} {c c' : Panel} {w : Snapshot} {x : Observation} :
    c.observe tick w = .ok (x, c') ↔
      c.eventually.evaluate w = .ok (x.eventually, c'.eventually) ∧
      c.always.evaluate w = .ok (x.always, c'.always) ∧
      x.elapsed = tick.times (c.seen + 1) ∧ x.world = w ∧ c'.seen = c.seen + 1 := by
  unfold observe
  constructor
  · intro h
    split at h
    · cases h
    · rename_i eventually e he
      split at h
      · cases h
      · rename_i always a ha
        cases h
        exact ⟨he, ha, rfl, rfl, rfl⟩
  · rintro ⟨he, ha, hx, rfl, hc⟩
    rw [he, ha]
    dsimp only
    rw [← hx, ← hc]

theorem observe_eq_error_iff {tick : Span} {c : Panel} {w : Snapshot} {panic : Panic} :
    c.observe tick w = .error panic ↔
      c.eventually.evaluate w = .error panic ∨
        ∃ found, c.eventually.evaluate w = .ok found ∧ c.always.evaluate w = .error panic := by
  unfold observe
  cases c.eventually.evaluate w with
  | error found => simp only [Except.error.injEq, reduceCtorEq, false_and, exists_false, or_false]
  | ok found =>
    simp only [reduceCtorEq, Except.ok.injEq, exists_eq_left', false_or]
    cases c.always.evaluate w <;> simp only [Except.error.injEq, reduceCtorEq]

theorem tick_of_observe {tick : Span} {c c' : Panel} {w : Snapshot} {x : Observation}
    (h : c.observe tick w = .ok (x, c')) :
    x.always.tick = x.world.tick ∧ x.eventually.tick = x.world.tick := by
  obtain ⟨he, ha, -, rfl, -⟩ := observe_eq_ok_iff.mp h
  exact ⟨SequenceSet.tick_of_evaluate ha, SequenceSet.tick_of_evaluate he⟩

/-- Each set of a panel is evaluated as if it were alone. -/
theorem histories_of_watch {tick : Span} {c c' : Panel} {ws : List Snapshot}
    {xs : List Observation} (h : c.watch tick ws = .ok (xs, c')) :
    c.always.history ws = .ok (xs.map (·.always), c'.always) ∧
    c.eventually.history ws = .ok (xs.map (·.eventually), c'.eventually) := by
  induction ws generalizing c xs with
  | nil =>
    cases h
    exact ⟨rfl, rfl⟩
  | cons w ws ih =>
    obtain ⟨x, c₁, xs', hx, hxs, rfl⟩ := along_cons_eq_ok_iff.mp h
    obtain ⟨he, ha, -⟩ := observe_eq_ok_iff.mp hx
    obtain ⟨has, hes⟩ := ih hxs
    refine ⟨?_, ?_⟩
    · exact along_cons_eq_ok_iff.mpr ⟨_, _, _, ha, has, rfl⟩
    · exact along_cons_eq_ok_iff.mpr ⟨_, _, _, he, hes, rfl⟩

/-- What a run makes of snapshots on which its sets give these reports. -/
theorem watch_of_histories (tick : Span) {always eventually a e : SequenceSet} {w : ℕ → Snapshot}
    {A E : ℕ → Report} {n : ℕ} (hA : always.history (upTo w n) = .ok (upTo A n, a))
    (hE : eventually.history (upTo w n) = .ok (upTo E n, e)) :
    (⟨always, eventually, 0⟩ : Panel).watch tick (upTo w n) =
      .ok (upTo (Observation.ofReports tick w A E) n, ⟨a, e, n⟩) := by
  induction n generalizing a e with
  | zero =>
    cases hA
    cases hE
    rfl
  | succ n ih =>
    obtain ⟨a₁, hA₁, ha⟩ := along_upTo_succ_iff.mp hA
    obtain ⟨e₁, hE₁, he⟩ := along_upTo_succ_iff.mp hE
    have hlast : (⟨a₁, e₁, n⟩ : Panel).observe tick (w (n + 1)) =
        .ok (Observation.ofReports tick w A E (n + 1), ⟨a, e, n + 1⟩) :=
      observe_eq_ok_iff.mpr ⟨he, ha, rfl, rfl, rfl⟩
    exact along_upTo_succ_iff.mpr ⟨⟨a₁, e₁, n⟩, ih hA₁ hE₁, hlast⟩

/-- The reports of the two sets, numbered like the snapshots. -/
theorem exists_reports_of_watch {tick : Span} {c c' : Panel} {ws : List Snapshot}
    {xs : List Observation} (h : c.watch tick ws = .ok (xs, c')) :
    ∃ A E : ℕ → Report, c.always.history ws = .ok (upTo A ws.length, c'.always) ∧
      c.eventually.history ws = .ok (upTo E ws.length, c'.eventually) ∧
      ∀ (i : ℕ) (hi : i < xs.length), A (i + 1) = xs[i].always ∧ E (i + 1) = xs[i].eventually := by
  obtain ⟨has, hes⟩ := histories_of_watch h
  obtain ⟨A, hA, hAi⟩ := exists_upTo_eq {} (xs.map (·.always))
  obtain ⟨E, hE, hEi⟩ := exists_upTo_eq {} (xs.map (·.eventually))
  rw [List.length_map, length_of_along h] at hA hE
  refine ⟨A, E, hA ▸ has, hE ▸ hes, ?_⟩
  intro i hi
  have hi' : i < (xs.map (·.always)).length := by rwa [List.length_map]
  have hi'' : i < (xs.map (·.eventually)).length := by rwa [List.length_map]
  rw [hAi i hi', hEi i hi'', List.getElem_map, List.getElem_map]
  exact ⟨rfl, rfl⟩

/-- Whether there is anything to wait for does not change. -/
theorem eventually_ne_nil_of_watch {tick : Span} {c c' : Panel} {ws : List Snapshot}
    {xs : List Observation} (h : c.watch tick ws = .ok (xs, c')) :
    ∀ x ∈ xs, x.eventually.sequences ≠ [] ↔ c.eventually.sequences ≠ [] := by
  induction ws generalizing c xs with
  | nil =>
    cases h
    intro x hx
    cases hx
  | cons w ws ih =>
    obtain ⟨x, c₁, xs', hx, hxs, rfl⟩ := along_cons_eq_ok_iff.mp h
    obtain ⟨he, -⟩ := observe_eq_ok_iff.mp hx
    obtain ⟨hr, hs⟩ := SequenceSet.isEmpty_of_evaluate he
    -- a report is empty exactly if its set is, and a set does not become empty
    have hnil (l : SequenceSet) : l.sequences ≠ [] ↔ l.isEmpty = false := by
      rw [SequenceSet.isEmpty, List.isEmpty_eq_false_iff]
    intro y hy
    obtain rfl | hy := List.mem_cons.mp hy
    · rw [hnil, ← hr, List.isEmpty_eq_false_iff]
    · rw [ih hxs y hy, hnil, hnil, hs]

theorem watch_of_isTotal (tick : Span) {c : Panel} (ha : c.always.IsTotal)
    (he : c.eventually.IsTotal) (ws : List Snapshot) : ∃ xs c', c.watch tick ws = .ok (xs, c') := by
  have hstep (c : Panel) (w : Snapshot) (hc : c.always.IsTotal ∧ c.eventually.IsTotal) :
      ∃ x c', c.observe tick w = .ok (x, c') ∧ c'.always.IsTotal ∧ c'.eventually.IsTotal := by
    obtain ⟨a, a', ha, hta⟩ := SequenceSet.evaluate_of_isTotal hc.1 w
    obtain ⟨e, e', he, hte⟩ := SequenceSet.evaluate_of_isTotal hc.2 w
    exact ⟨⟨tick.times (c.seen + 1), w, e, a⟩, ⟨a', e', c.seen + 1⟩,
      observe_eq_ok_iff.mpr ⟨he, ha, rfl, rfl, rfl⟩, hta, hte⟩
  obtain ⟨xs, c', h, -⟩ := along_of_kept hstep ⟨ha, he⟩ ws
  exact ⟨xs, c', h⟩

/-- A run that sees anything has a last observation: the first one that ends it, or the last of all. -/
theorem exists_closing (earlyExit : Bool) {tick : Span} {c c' : Panel} {ws : List Snapshot}
    {xs : List Observation} (h : c.watch tick ws = .ok (xs, c')) (hws : ws ≠ []) :
    ∃ seen w unseen quiet x rest c₁ c₂, ws = seen ++ w :: unseen ∧ xs = quiet ++ x :: rest ∧
      c.watch tick seen = .ok (quiet, c₁) ∧ c₁.observe tick w = .ok (x, c₂) ∧
      (∀ y ∈ quiet, ¬ y.Ends earlyExit) ∧ (x.Ends earlyExit ∨ unseen = []) := by
  induction ws generalizing c xs with
  | nil => exact absurd rfl hws
  | cons w ws ih =>
    obtain ⟨x, c₁, xs', hx, hxs, rfl⟩ := along_cons_eq_ok_iff.mp h
    -- either `x` is the last observation, or the last one is among those that follow
    by_cases hends : x.Ends earlyExit ∨ ws = []
    · exact ⟨[], w, ws, [], x, xs', c, c₁, rfl, rfl, rfl, hx,
        fun y hy => (List.not_mem_nil hy).elim, hends⟩
    · obtain ⟨hgoes, hne⟩ := not_or.mp hends
      obtain ⟨seen, v, unseen, quiet, y, rest, c₂, c₃, rfl, rfl, hseen, hy, hquiet, hlast⟩ :=
        ih hxs hne
      refine ⟨w :: seen, v, unseen, x :: quiet, y, rest, c₂, c₃, rfl, rfl, ?_, hy, ?_, hlast⟩
      · exact along_cons_eq_ok_iff.mpr ⟨x, c₁, quiet, hx, hseen, rfl⟩
      · intro z hz
        obtain rfl | hz := List.mem_cons.mp hz
        · exact hgoes
        · exact hquiet z hz

/-- The same where the snapshots are the first ones of a sequence. -/
theorem exists_closing_upTo (earlyExit : Bool) {tick : Span} {c c' : Panel} {w : ℕ → Snapshot} {n : ℕ}
    {xs : List Observation} (h : c.watch tick (upTo w n) = .ok (xs, c')) (hn : 0 < n) :
    ∃ k quiet x rest c₁ c₂, k < n ∧ xs = quiet ++ x :: rest ∧ quiet.length = k ∧
      c.watch tick (upTo w k) = .ok (quiet, c₁) ∧ c₁.observe tick (w (k + 1)) = .ok (x, c₂) ∧
      (∀ y ∈ quiet, ¬ y.Ends earlyExit) ∧ (x.Ends earlyExit ∨ k + 1 = n) := by
  have hne : upTo w n ≠ [] := by
    apply List.ne_nil_of_length_pos
    rw [length_upTo]
    exact hn
  obtain ⟨seen, v, unseen, quiet, x, rest, c₁, c₂, hws, hxs, hseen, hobserve, hquiet, hlast⟩ :=
    exists_closing earlyExit h hne
  obtain ⟨hfirst, rfl⟩ := upTo_eq_append_cons hws
  have hlens : seen.length + unseen.length + 1 = n := by
    rw [← length_upTo (f := w) (n := n), hws, List.length_append, List.length_cons]
    omega
  have hclose : x.Ends earlyExit ∨ seen.length + 1 = n := by
    obtain hends | rfl := hlast
    · exact Or.inl hends
    · exact Or.inr hlens
  have hquiets : quiet.length = seen.length := length_of_along hseen
  rw [hfirst] at hseen
  exact ⟨seen.length, quiet, x, rest, c₁, c₂, by omega, hxs, hquiets, hseen, hobserve, hquiet, hclose⟩

end Panel

end Lockstep
