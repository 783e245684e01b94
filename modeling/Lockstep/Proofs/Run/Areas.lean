import Lockstep.Proofs.Run.Guards
import Lockstep.Proofs.Validation.Probes

namespace Lockstep

namespace Snapshot

variable {w : Snapshot} {team : Team} {id : ℕ} {region : Region}

/-- The robot is in the snapshot, and none before it has the same team and id. -/
def IsFirst (w : Snapshot) (team : Team) (id : ℕ) (r : Robot) : Prop :=
  ∃ before after, w.robots = before ++ r :: after ∧ (r.team = team ∧ r.id = id) ∧
    ∀ s ∈ before, ¬ (s.team = team ∧ s.id = id)

theorem robot?_eq_some_iff {r : Robot} : w.robot? team id = some r ↔ w.IsFirst team id r := by
  rw [robot?, List.find?_eq_some_iff_append, IsFirst]
  simp only [Bool.and_eq_true, beq_iff_eq, Bool.not_eq_true', Bool.and_eq_false_iff, beq_eq_false_iff_ne,
    not_and_or]
  constructor
  · rintro ⟨hr, before, after, hrobots, hbefore⟩
    exact ⟨before, after, hrobots, hr, hbefore⟩
  · rintro ⟨before, after, hrobots, hr, hbefore⟩
    exact ⟨hr, before, after, hrobots, hbefore⟩

/-- The robot is on the field and in the region. -/
def RobotInside (w : Snapshot) (team : Team) (id : ℕ) (region : Region) : Prop :=
  ∃ r, w.IsFirst team id r ∧ region.contains r.position = true

theorem robotInside_iff :
    w.RobotInside team id region ↔ ∃ r ∈ w.robot? team id, region.contains r.position = true := by
  simp only [RobotInside, ← robot?_eq_some_iff, Option.mem_def]

instance : Decidable (w.RobotInside team id region) := decidable_of_iff _ robotInside_iff.symm

/-- The robot is in the region, or somewhere else, or not on the field. -/
theorem robot_cases (w : Snapshot) (team : Team) (id : ℕ) (region : Region) :
    (∃ r, w.robot? team id = some r ∧ region.contains r.position = true ∧
      w.RobotInside team id region) ∨
    (∃ r, w.robot? team id = some r ∧ region.contains r.position = false ∧
      ¬ w.RobotInside team id region) ∨
    (w.robot? team id = none ∧ ¬ w.RobotInside team id region) := by
  rw [robotInside_iff]
  cases w.robot? team id with
  | none => exact Or.inr (Or.inr ⟨rfl, fun ⟨_, hr, _⟩ => nomatch hr⟩)
  | some r =>
    simp only [Option.some.injEq, Option.mem_def, exists_eq_left', reduceCtorEq, false_and, or_false]
    cases region.contains r.position <;> decide

end Snapshot

/-- A robot that is to stay in a region. -/
structure Guard where
  name : String
  team : Team
  id : ℕ
  region : Region

namespace Guard

def predicate (g : Guard) : Predicate := .robotStays g.team g.id g.region

/-- The name of its predicate. -/
def title (g : Guard) : String := Predicate.robotStaysName g.team g.id g.region

def sequence (g : Guard) : Sequence := .fresh g.name [g.predicate]

def Holds (g : Guard) (w : Snapshot) : Prop := w.RobotInside g.team g.id g.region

instance (g : Guard) (w : Snapshot) : Decidable (g.Holds w) :=
  inferInstanceAs (Decidable (w.RobotInside g.team g.id g.region))

/-- Why the guard does not hold. -/
def remark (g : Guard) (w : Snapshot) : String :=
  match w.robot? g.team g.id with
  | none => "robot not on field"
  | some r => s!"robot left region at {Region.pointText r.position}" ++
      s!", t={Decimal.fixed 3 w.timestamp}s"

/-- The report on a snapshot on which the guard does not hold. -/
def alarm (g : Guard) (w : Snapshot) : SequenceReport :=
  ⟨g.name, .failed, some g.title, 0, 1, some (g.remark w)⟩

def verdict (g : Guard) (w : Snapshot) : Verdict :=
  if g.Holds w then .pending else .failed (g.remark w)

variable {g : Guard} {w : Snapshot}

theorem judge_eq : g.predicate.judge w = .ok (g.verdict w) := by
  unfold verdict predicate Predicate.robotStays
  rcases w.robot_cases g.team g.id g.region with ⟨r, hr, hcontains, hinside⟩ |
      ⟨r, hr, hcontains, hinside⟩ | ⟨hr, hinside⟩
  · have hholds : g.Holds w := hinside
    simp only [if_pos hholds, Predicate.total, hr, hcontains, if_true]
  · have hbroken : ¬ g.Holds w := hinside
    simp only [if_neg hbroken, Predicate.total, remark, hr, hcontains, Bool.false_eq_true, if_false]
  · have hbroken : ¬ g.Holds w := hinside
    simp only [if_neg hbroken, Predicate.total, remark, hr]

theorem answer_eq : g.predicate.answer w = .ok (g.verdict w, g.title) :=
  Predicate.answer_eq_ok_iff.mpr ⟨judge_eq, rfl⟩

theorem verdict_ne_passed : (g.verdict w).status ≠ .passed := by
  unfold verdict
  split <;> exact fun h => nomatch h

def probe (g : Guard) : Probe where
  name := g.name
  predicate := g.predicate
  title := g.title
  verdict := g.verdict
  answer_eq _ := answer_eq
  plain _ h := absurd h verdict_ne_passed

end Guard

/-- What a goal is about. -/
inductive Target where
  | robot (team : Team) (id : ℕ)
  | ball

/-- A robot, or the ball, that is to enter a region. -/
structure Goal where
  name : String
  target : Target
  region : Region

namespace Goal

def predicate (g : Goal) : Predicate :=
  match g.target with
  | .robot team id => .robotEnters team id g.region
  | .ball => .ballEnters g.region

/-- The name of its predicate. -/
def title (g : Goal) : String :=
  match g.target with
  | .robot team id => Predicate.robotEntersName team id g.region
  | .ball => Predicate.ballEntersName g.region

def sequence (g : Goal) : Sequence := .fresh g.name [g.predicate]

def Reached (g : Goal) (w : Snapshot) : Prop :=
  match g.target with
  | .robot team id => w.RobotInside team id g.region
  | .ball => g.region.contains w.ball.position = true

instance (g : Goal) (w : Snapshot) : Decidable (g.Reached w) := by
  unfold Reached
  split <;> infer_instance

/-- What is there instead, on a snapshot on which the goal is not reached. -/
def remark (g : Goal) (w : Snapshot) : String :=
  match g.target with
  | .robot team id =>
    match w.robot? team id with
    | none => "robot not on field"
    | some r => s!"robot at {Region.pointText r.position}"
  | .ball => s!"ball at {Region.pointText w.ball.position}"

/-- The report on a snapshot up to which the goal was not reached. -/
def shortfall (g : Goal) (w : Snapshot) : SequenceReport :=
  ⟨g.name, .pending, some g.title, 0, 1, some (g.remark w)⟩

def verdict (g : Goal) (w : Snapshot) : Verdict :=
  if g.Reached w then .passed else Verdict.pending.withDetail (g.remark w)

variable {g : Goal} {w : Snapshot}

theorem judge_eq : g.predicate.judge w = .ok (g.verdict w) := by
  obtain ⟨name, _ | _, region⟩ := g
  case robot team id =>
    unfold verdict predicate Predicate.robotEnters
    rcases w.robot_cases team id region with ⟨r, hr, hcontains, hinside⟩ |
        ⟨r, hr, hcontains, hinside⟩ | ⟨hr, hinside⟩
    · have hreached : (⟨name, .robot team id, region⟩ : Goal).Reached w := hinside
      simp only [if_pos hreached, Predicate.total, hr, hcontains, if_true]
    · have hmissed : ¬ (⟨name, .robot team id, region⟩ : Goal).Reached w := hinside
      simp only [if_neg hmissed, Predicate.total, remark, hr, hcontains, Bool.false_eq_true, if_false]
    · have hmissed : ¬ (⟨name, .robot team id, region⟩ : Goal).Reached w := hinside
      simp only [if_neg hmissed, Predicate.total, remark, hr]
  case ball =>
    -- the ball is always there
    unfold verdict predicate Predicate.ballEnters
    by_cases hinside : region.contains w.ball.position = true
    · have hreached : (⟨name, .ball, region⟩ : Goal).Reached w := hinside
      simp only [if_pos hreached, Predicate.total, if_pos hinside]
    · have hmissed : ¬ (⟨name, .ball, region⟩ : Goal).Reached w := hinside
      simp only [if_neg hmissed, Predicate.total, remark, if_neg hinside]

theorem answer_eq : g.predicate.answer w = .ok (g.verdict w, g.title) := by
  refine Predicate.answer_eq_ok_iff.mpr ⟨judge_eq, ?_⟩
  obtain ⟨name, _ | _, region⟩ := g
  · rfl
  · rfl

theorem verdict_passed_iff : (g.verdict w).status = .passed ↔ g.Reached w := by
  unfold verdict
  split
  · rename_i hreached
    exact ⟨fun _ => hreached, fun _ => rfl⟩
  · rename_i hmissed
    exact ⟨fun h => (nomatch h), fun hreached => absurd hreached hmissed⟩

def probe (g : Goal) : Probe where
  name := g.name
  predicate := g.predicate
  title := g.title
  verdict := g.verdict
  answer_eq _ := answer_eq
  plain _ h := if_pos (verdict_passed_iff.mp h)

end Goal

/-- The sequences of a report that break a rule, where it is known which do and what is said of them. -/
theorem Report.offending_map {ι : Type} {items : List ι} {rule : Rule} {tick : ℕ}
    {report said : ι → SequenceReport} {breaks : ι → Prop} [DecidablePred breaks]
    (hbreaks : ∀ x ∈ items, rule.broken (report x).status = decide (breaks x))
    (hsaid : ∀ x ∈ items, breaks x → report x = said x) :
    (⟨tick, items.map report⟩ : Report).offending rule =
      (items.filter fun x => breaks x).map said := by
  have hfilter : items.filter ((fun s => rule.broken s.status) ∘ report) =
      items.filter fun x => breaks x := List.filter_congr hbreaks
  rw [offending, List.filter_map, hfilter]
  apply List.map_congr_left
  intro x hx
  obtain ⟨hitem, hx⟩ := List.mem_filter.mp hx
  exact hsaid x hitem (of_decide_eq_true hx)

/-- What is reported of the guards that do not hold on the snapshot. -/
def Guard.alarms (guards : List Guard) (w : Snapshot) : List SequenceReport :=
  (guards.filter fun g => ¬ g.Holds w).map fun g => g.alarm w

/-- What is reported of the goals that are reached on none of the first snapshots. -/
def Goal.shortfalls (goals : List Goal) (w : ℕ → Snapshot) (n : ℕ) : List SequenceReport :=
  (goals.filter fun g => ¬ ∃ v ∈ upTo w n, g.Reached v).map fun g => g.shortfall (w n)

theorem Guard.alarms_eq_nil_iff {guards : List Guard} {w : Snapshot} :
    alarms guards w = [] ↔ ∀ g ∈ guards, g.Holds w := by
  rw [alarms, List.map_eq_nil_iff, List.filter_eq_nil_iff]
  simp only [decide_eq_true_eq, not_not]

theorem Guard.alarms_ne_nil_iff {guards : List Guard} {w : Snapshot} :
    alarms guards w ≠ [] ↔ ∃ g ∈ guards, ¬ g.Holds w := by
  rw [ne_eq, alarms_eq_nil_iff]
  simp only [not_forall, exists_prop]

theorem Goal.shortfalls_eq_nil_iff {goals : List Goal} {w : ℕ → Snapshot} {n : ℕ} :
    shortfalls goals w n = [] ↔ ∀ g ∈ goals, ∃ v ∈ upTo w n, g.Reached v := by
  rw [shortfalls, List.map_eq_nil_iff, List.filter_eq_nil_iff]
  simp only [decide_eq_true_eq, not_not]

/-- A guard is never done, so each snapshot is judged by itself. -/
theorem Guard.offending_eq (guards : List Guard) (w : ℕ → Snapshot) (n tick : ℕ) :
    (⟨tick, guards.map fun g => g.probe.report w n⟩ : Report).offending .always =
      alarms guards (w n) := by
  have hreport (g : Guard) : g.probe.report w n =
      ⟨g.name, (g.verdict (w n)).status, some g.title, 0, 1, (g.verdict (w n)).detail⟩ := by
    have hnever : ¬ g.probe.PassesIn w n := fun ⟨v, _, hpasses⟩ => verdict_ne_passed hpasses
    rw [Probe.report, if_neg hnever]
    rfl
  apply Report.offending_map
  · intro g _
    rw [hreport, verdict]
    by_cases hholds : g.Holds (w n)
    · simp only [hholds, not_true_eq_false, decide_false]
      rfl
    · simp only [hholds, not_false_eq_true, decide_true]
      rfl
  · intro g _ hbroken
    rw [hreport, verdict, if_neg hbroken]
    rfl

/-- A goal that was reached is done, whatever comes after. -/
theorem Goal.offending_eq (goals : List Goal) (w : ℕ → Snapshot) (n tick : ℕ) :
    (⟨tick, goals.map fun g => g.probe.report w (n + 1)⟩ : Report).offending .eventually =
      shortfalls goals w (n + 1) := by
  have hpasses (g : Goal) : g.probe.PassesIn w (n + 1) ↔ ∃ v ∈ upTo w (n + 1), g.Reached v := by
    simp only [Probe.PassesIn, probe, verdict_passed_iff]
  -- what was never reached is not reached on the last snapshot either, and that is reported
  have hmissed (g : Goal) (h : ¬ ∃ v ∈ upTo w (n + 1), g.Reached v) :
      g.probe.report w (n + 1) = g.shortfall (w (n + 1)) := by
    have hlast : ¬ g.Reached (w (n + 1)) := fun hreached =>
      h ⟨_, mem_upTo.mpr ⟨n + 1, Nat.succ_pos n, le_rfl, rfl⟩, hreached⟩
    have hverdict : g.probe.verdict (w (n + 1)) = Verdict.pending.withDetail (g.remark (w (n + 1))) :=
      if_neg hlast
    rw [Probe.report, if_neg ((hpasses g).not.mpr h), hverdict]
    rfl
  apply Report.offending_map
  · intro g _
    by_cases hreached : ∃ v ∈ upTo w (n + 1), g.Reached v
    · rw [Probe.report, if_pos ((hpasses g).mpr hreached)]
      simp only [hreached, not_true_eq_false, decide_false]
      rfl
    · rw [hmissed g hreached]
      simp only [hreached, not_false_eq_true, decide_true]
      rfl
  · intro g _
    exact hmissed g

/-- The outcome is the one that guards and goals give to a run that is served `n` snapshots, numbered from
`start` on. -/
structure Outcome.Judges (outcome : Outcome) (guards : List Guard) (goals : List Goal) (w : ℕ → Snapshot)
    (n start : ℕ) : Prop where
  failedAlways_iff : ∀ failure, outcome = .failedAlways failure ↔
    ∃ k, IsLeast {i | 0 < i ∧ i ≤ n ∧ ∃ g ∈ guards, ¬ g.Holds (w i)} k ∧
      failure = ⟨.always, start + k, Guard.alarms guards (w k)⟩
  passed_iff : outcome = .passed ↔
    (∀ i, 0 < i → i ≤ n → ∀ g ∈ guards, g.Holds (w i)) ∧ ∀ g ∈ goals, ∃ v ∈ upTo w n, g.Reached v
  failedEventually_iff : ∀ failure, outcome = .failedEventually failure ↔
    (∀ i, 0 < i → i ≤ n → ∀ g ∈ guards, g.Holds (w i)) ∧
      (∃ g ∈ goals, ∀ v ∈ upTo w n, ¬ g.Reached v) ∧
      failure = ⟨.eventually, start + n, Goal.shortfalls goals w n⟩
  ne_failedException : ∀ error, outcome ≠ .failedException error

namespace Outcome

variable {guards : List Guard} {goals : List Goal} {w : ℕ → Snapshot} {n start k : ℕ}

theorem judges_of_isLeast
    (hk : IsLeast {i | 0 < i ∧ i ≤ n ∧ ∃ g ∈ guards, ¬ g.Holds (w i)} k) :
    (failedAlways ⟨.always, start + k, Guard.alarms guards (w k)⟩).Judges guards goals w n start := by
  have hbroken : ¬ ∀ i, 0 < i → i ≤ n → ∀ g ∈ guards, g.Holds (w i) := by
    intro hall
    obtain ⟨⟨hpos, hle, g, hg, hbroken⟩, -⟩ := hk
    exact hbroken (hall k hpos hle g hg)
  refine ⟨?_, ?_, ?_, fun _ h => nomatch h⟩
  · intro failure
    constructor
    · intro h
      cases h
      exact ⟨k, hk, rfl⟩
    · rintro ⟨j, hj, rfl⟩
      rw [hj.unique hk]
  · exact ⟨fun h => (nomatch h), fun h => absurd h.1 hbroken⟩
  · intro failure
    exact ⟨fun h => (nomatch h), fun h => absurd h.1 hbroken⟩

/-- Where all guards hold all the time, the goals decide. -/
theorem judges_of_unbroken (hall : ∀ i, 0 < i → i ≤ n → ∀ g ∈ guards, g.Holds (w i)) :
    (if Goal.shortfalls goals w n ≠ [] then
        failedEventually ⟨.eventually, start + n, Goal.shortfalls goals w n⟩
      else passed).Judges guards goals w n start := by
  -- so there is no first tick at which one does not
  have hnone (j : ℕ) : ¬ IsLeast {i | 0 < i ∧ i ≤ n ∧ ∃ g ∈ guards, ¬ g.Holds (w i)} j := by
    rintro ⟨⟨hpos, hle, g, hg, hbroken⟩, -⟩
    exact hbroken (hall j hpos hle g hg)
  by_cases hmissed : Goal.shortfalls goals w n ≠ []
  · have hgoal : ∃ g ∈ goals, ∀ v ∈ upTo w n, ¬ g.Reached v := by
      rw [ne_eq, Goal.shortfalls_eq_nil_iff] at hmissed
      simpa only [not_forall, not_exists, not_and, exists_prop] using hmissed
    rw [if_pos hmissed]
    refine ⟨?_, ?_, ?_, fun _ h => nomatch h⟩
    · intro failure
      exact ⟨fun h => (nomatch h), fun ⟨j, hj, _⟩ => absurd hj (hnone j)⟩
    · refine ⟨fun h => (nomatch h), ?_⟩
      rintro ⟨-, hreached⟩
      exact absurd (Goal.shortfalls_eq_nil_iff.mpr hreached) hmissed
    · intro failure
      constructor
      · intro h
        cases h
        exact ⟨hall, hgoal, rfl⟩
      · rintro ⟨-, -, rfl⟩
        rfl
  · have hreached := Goal.shortfalls_eq_nil_iff.mp (not_not.mp hmissed)
    rw [if_neg hmissed]
    refine ⟨?_, ⟨fun _ => ⟨hall, hreached⟩, fun _ => rfl⟩, ?_, fun _ h => nomatch h⟩
    · intro failure
      exact ⟨fun h => (nomatch h), fun ⟨j, hj, _⟩ => absurd hj (hnone j)⟩
    · intro failure
      refine ⟨fun h => (nomatch h), ?_⟩
      rintro ⟨-, ⟨g, hg, hnever⟩, -⟩
      obtain ⟨v, hv, hgreached⟩ := hreached g hg
      exact absurd hgreached (hnever v hv)

end Outcome

namespace Orchestrator

variable {σ ω : Type} {o : Orchestrator σ ω}

/-- A run with guards and goals takes its ticks until a guard does not hold or the time is up. -/
theorem exists_run_of_areas (hengine : o.engine = .standard) (hexit : o.earlyExit = false)
    (guards : List Guard) (goals : List Goal) {timing : Timing} (hvalid : timing.Valid)
    (hroom : o.HasRoom timing) {w : ℕ → Snapshot}
    (hw : ∀ i, 0 < i → i ≤ timing.fullTicks → (w i).tick = o.driver.ticks + i) {t : σ}
    (hserves : o.driver.link.Serves (.ofSpan timing.tick) o.driver.state
      (upTo w timing.fullTicks) t) :
    ∃ k < timing.fullTicks, (∀ i, 0 < i → i ≤ k → Guard.alarms guards (w i) = []) ∧
      (Guard.alarms guards (w (k + 1)) ≠ [] ∨ k + 1 = timing.fullTicks) ∧
      ∃ o', o.run ⟨guards.map Guard.sequence⟩ ⟨goals.map Goal.sequence⟩ timing = some (.ok
        (if Guard.alarms guards (w (k + 1)) ≠ [] then
          .failedAlways ⟨.always, o.driver.ticks + (k + 1), Guard.alarms guards (w (k + 1))⟩
        else if Goal.shortfalls goals w (k + 1) ≠ [] then
          .failedEventually ⟨.eventually, o.driver.ticks + (k + 1), Goal.shortfalls goals w (k + 1)⟩
        else .passed), o') := by
  obtain ⟨d, hdelivers, -⟩ :=
    TickDriver.delivers_of_serves hserves (numberedFrom_upTo_iff.mpr hw)
  have hnew (i : ℕ) (hpos : 0 < i) (hi : i < timing.fullTicks) : (w i).tick ≠ (w (i + 1)).tick := by
    rw [hw i hpos (by omega), hw (i + 1) (Nat.succ_pos i) hi]
    omega
  obtain ⟨a, hA⟩ := Probe.history_sequences Guard.probe guards hnew
  obtain ⟨e, hE⟩ := Probe.history_sequences Goal.probe goals hnew
  obtain ⟨k, hk, hquiet, hclose, htick, o', hrun, -, -⟩ :=
    exists_runObserves hengine hvalid hroom hdelivers hA hE
  simp only [hexit, Observation.ends_false_iff, Observation.violated_iff, Observation.ofReports,
    Guard.offending_eq] at hquiet hclose
  rw [Observation.verdict_eq] at hrun
  simp only [Observation.ofReports, Guard.offending_eq, Goal.offending_eq, htick] at hrun
  refine ⟨k, hk, ?_, hclose, o', hrun⟩
  intro i hpos hi
  exact not_not.mp (hquiet i hpos hi)

/-- **Areas of the field.** A run without an early exit, whose link answers each tick with the snapshot `w i`,
numbered next, is judged by guards and goals. It fails by its always set at a tick exactly if that is the first
one at which a guarded robot is missing or outside its region, and names the guards of which that is true. If
there is none, it passes exactly if each goal was reached on some snapshot, even if it was lost again, and else
fails by its eventually set at the last tick and names the goals that never were. There is no other outcome. -/
theorem run_of_areas (o : Orchestrator σ ω) (hengine : o.engine = .standard)
    (hexit : o.earlyExit = false) (guards : List Guard) (goals : List Goal) {timing : Timing}
    (hvalid : timing.Valid) (hroom : o.HasRoom timing) {w : ℕ → Snapshot}
    (hw : ∀ i, 0 < i → i ≤ timing.fullTicks → (w i).tick = o.driver.ticks + i) {t : σ}
    (hserves : o.driver.link.Serves (.ofSpan timing.tick) o.driver.state
      (upTo w timing.fullTicks) t) :
    ∃ outcome o', o.run ⟨guards.map Guard.sequence⟩ ⟨goals.map Goal.sequence⟩ timing =
        some (.ok outcome, o') ∧
      outcome.Judges guards goals w timing.fullTicks o.driver.ticks := by
  obtain ⟨k, hk, hquiet, hclose, o', hrun⟩ :=
    exists_run_of_areas hengine hexit guards goals hvalid hroom hw hserves
  refine ⟨_, o', hrun, ?_⟩
  by_cases hbroken : Guard.alarms guards (w (k + 1)) ≠ []
  · -- a guard ends the run, at the first tick at which one does not hold
    rw [if_pos hbroken]
    apply Outcome.judges_of_isLeast
    apply isLeast_succ
    · exact ⟨hk, Guard.alarms_ne_nil_iff.mp hbroken⟩
    · rintro j hj ⟨-, hbefore⟩
      exact Guard.alarms_ne_nil_iff.mpr hbefore (hquiet (j + 1) (Nat.succ_pos j) hj)
  · -- no guard does, so the run takes all of its ticks
    have hlast : k + 1 = timing.fullTicks := hclose.resolve_left hbroken
    rw [if_neg hbroken, hlast]
    apply Outcome.judges_of_unbroken
    intro i hpos hi
    apply Guard.alarms_eq_nil_iff.mp
    obtain rfl | hlt := Nat.eq_or_lt_of_le (hlast ▸ hi)
    · exact not_not.mp hbroken
    · exact hquiet i hpos (Nat.le_of_lt_succ hlt)

/-- A robot that never comes is missed by its guard at the first tick, or by its goal at the last. -/
theorem run_of_areas_missing_robot :
    let timing : Timing := ⟨⟨25, by decide⟩, ⟨10, by decide⟩⟩
    let o : Orchestrator Playback Unit :=
      { driver := { link := Playback.link
                    state := { answers := [.ok (.empty 1 0.0), .ok (.empty 2 0.0),
                      .ok (.empty 3 0.0)] } }
        observer := .idle, notes := () }
    let guard : Guard := ⟨"keeper", .blue, 0, .goal⟩
    let goal : Goal := ⟨"kick-off", .robot .yellow 7, .centreCircle⟩
    timing.Valid ∧ o.HasRoom timing ∧
      (∃ o', o.run ⟨[guard.sequence]⟩ ⟨[goal.sequence]⟩ timing = some (.ok (.failedAlways ⟨.always, 1,
        [⟨"keeper", .failed, some guard.title, 0, 1, some "robot not on field"⟩]⟩), o')) ∧
      ∃ o', o.run {} ⟨[goal.sequence]⟩ timing = some (.ok (.failedEventually ⟨.eventually, 3,
        [⟨"kick-off", .pending, some goal.title, 0, 1, some "robot not on field"⟩]⟩), o') := by
  intro timing o guard goal
  have hvalid : timing.Valid := by decide
  have hfull : timing.fullTicks = 3 := by
    rw [Timing.fullTicks, Nat.ceilDiv_eq_add_pred_div]
    show (25 + 10 - 1) / 10 = 3
    rfl
  have hroom : o.HasRoom timing := .of_fresh hvalid (by decide) rfl rfl
  have hjudged (guards : List Guard) : ∃ outcome o',
      o.run ⟨guards.map Guard.sequence⟩ ⟨[goal].map Goal.sequence⟩ timing = some (.ok outcome, o') ∧
        outcome.Judges guards [goal] (fun i => .empty i 0.0) timing.fullTicks 0 :=
    run_of_areas o rfl rfl guards [goal] hvalid hroom (fun i _ _ => (Nat.zero_add i).symm)
      (t := { answers := [], published := 3 })
      (by
        rw [hfull]
        exact .cons rfl rfl (.cons rfl rfl (.cons rfl rfl (.nil _))))
  have hmissing (i : ℕ) (team : Team) (id : ℕ) (region : Region) :
      ¬ (Snapshot.empty i 0.0).RobotInside team id region := by
    rintro ⟨r, ⟨before, after, hrobots, -⟩, -⟩
    exact List.append_ne_nil_of_right_ne_nil before (List.cons_ne_nil r after) hrobots.symm
  refine ⟨hvalid, hroom, ?_, ?_⟩
  · obtain ⟨outcome, o', hrun, hjudges⟩ := hjudged [guard]
    have hbroken : ¬ guard.Holds (.empty 1 0.0) := hmissing 1 _ _ _
    have hfirst : IsLeast {i | 0 < i ∧ i ≤ timing.fullTicks ∧
        ∃ g ∈ [guard], ¬ g.Holds (.empty i 0.0)} 1 := by
      refine ⟨⟨Nat.one_pos, ?_, guard, List.mem_singleton_self guard, hbroken⟩, fun i hi => hi.1⟩
      rw [hfull]
      decide
    have hfails := (hjudges.failedAlways_iff _).mpr ⟨1, hfirst, rfl⟩
    have halarms : Guard.alarms [guard] (.empty 1 0.0) =
        [⟨"keeper", .failed, some guard.title, 0, 1, some "robot not on field"⟩] := by
      simp only [Guard.alarms, List.filter_cons, hbroken, not_false_eq_true, decide_true, if_true]
      rfl
    rw [halarms] at hfails
    exact ⟨o', hfails ▸ hrun⟩
  · obtain ⟨outcome, o', hrun, hjudges⟩ := hjudged []
    have hnever : ∀ v ∈ upTo (fun i => Snapshot.empty i 0.0) timing.fullTicks, ¬ goal.Reached v := by
      intro v hv
      obtain ⟨i, -, -, rfl⟩ := mem_upTo.mp hv
      exact hmissing i _ _ _
    have hfails := (hjudges.failedEventually_iff _).mpr
      ⟨fun _ _ _ g hg => (List.not_mem_nil hg).elim, ⟨goal, List.mem_singleton_self goal, hnever⟩, rfl⟩
    have hshortfalls : Goal.shortfalls [goal] (fun i => .empty i 0.0) timing.fullTicks =
        [⟨"kick-off", .pending, some goal.title, 0, 1, some "robot not on field"⟩] := by
      have hmissed : ¬ ∃ v ∈ upTo (fun i => Snapshot.empty i 0.0) timing.fullTicks, goal.Reached v := by
        rintro ⟨v, hv, hreached⟩
        exact hnever v hv hreached
      simp only [Goal.shortfalls, List.filter_cons, hmissed, not_false_eq_true, decide_true, if_true]
      rfl
    rw [hshortfalls, hfull] at hfails
    exact ⟨o', hfails ▸ hrun⟩

end Orchestrator

end Lockstep
