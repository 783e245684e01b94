import Lockstep.Display.Screen
import Lockstep.Proofs.Display.Window
import Lockstep.Proofs.Run.Calls

namespace Lockstep

/-- The state of a run whose last frame satisfies the always rule and the eventually rule in this way. -/
def DashboardState.ofChecks (always eventually : Except Failure Unit) : DashboardState :=
  match always, eventually with
  | .error _, _ => .alwaysViolated
  | .ok (), .ok () => .eventuallyMet
  | .ok (), .error _ => .running

theorem DashboardState.name_injective : Function.Injective name := by
  intro a b h
  cases a <;> cases b <;> first | rfl | exact absurd h (by decide)

/-- The header with a tick, the simulated time and a state. -/
def Screen.headerText (tick : ℕ) (elapsed : Float) (state : DashboardState) : String :=
  s!"fieldtest  |  t={Decimal.fixed 2 elapsed}s  |  Tick: {tick}  |  {state.name}"

theorem Screen.headerText_inj {tick : ℕ} {elapsed : Float} {a b : DashboardState} :
    headerText tick elapsed a = headerText tick elapsed b ↔ a = b := by
  constructor
  · intro h
    apply DashboardState.name_injective
    unfold headerText at h
    have hlist := congrArg String.toList h
    simp only [String.toList_append] at hlist
    exact String.toList_injective (List.append_cancel_left hlist)
  · rintro rfl
    rfl

namespace Dashboard

theorem state_of_latest {d : Dashboard} {f : Frame} (h : d.latest = some f) :
    d.state = .ofChecks (f.always.check .always) (f.eventually.check .eventually) := by
  -- the header asks every sequence whether it has passed, the rule lists those that have not
  have hmet : f.eventually.sequences.all (·.status == .passed) = true ↔
      f.eventually.check .eventually = .ok () := by
    rw [Report.check_eq_ok_iff, List.all_eq_true]
    simp only [Rule.broken, bne_eq_false_iff_eq, beq_iff_eq]
  rw [state, h]
  dsimp only
  cases halways : f.always.check .always with
  | error failure =>
    -- a sequence failed, which comes before anything of the eventually set
    have hviolated : 0 < f.always.count .failed := by
      apply Nat.pos_of_ne_zero
      rw [ne_eq, ← Report.check_always_iff, halways]
      intro h
      cases h
    rw [if_pos hviolated]
    rfl
  | ok _ =>
    have hkept : ¬ 0 < f.always.count .failed := by
      rw [f.always.check_always_iff.mp halways]
      exact Nat.lt_irrefl 0
    rw [if_neg hkept]
    cases heventually : f.eventually.check .eventually with
    | error failure =>
      have hunmet : f.eventually.check .eventually ≠ .ok () := by
        rw [heventually]
        intro h
        cases h
      rw [if_neg fun hall => hunmet (hmet.mp hall)]
      rfl
    | ok _ =>
      rw [if_pos (hmet.mpr heventually)]
      rfl

/-- The header names the state that the rules lead to, and no other. -/
theorem header_of_latest {d : Dashboard} {f : Frame} (h : d.latest = some f) (state : DashboardState) :
    Screen.header d = Screen.headerText f.world.tick f.elapsed state ↔
      state = .ofChecks (f.always.check .always) (f.eventually.check .eventually) := by
  have hheader : Screen.header d = Screen.headerText f.world.tick f.elapsed d.state := by
    unfold Screen.header
    rw [h]
    rfl
  rw [hheader, Screen.headerText_inj, state_of_latest h]
  exact eq_comm

end Dashboard

/-- The verdict of the standard engine on an observation is the state that its frame leads to. -/
theorem DashboardState.ofChecks_verdict (x : Observation) :
    let state := ofChecks (x.always.check .always) (x.eventually.check .eventually)
    let verdict := Engine.standard.verdict x
    (.alwaysViolated = state ↔ ∃ failure, verdict = .failedAlways failure) ∧
      (.eventuallyMet = state ↔ verdict = .passed) ∧
      (.running = state ↔ ∃ failure, verdict = .failedEventually failure) := by
  intro state verdict
  unfold state verdict Engine.verdict Engine.standard
  dsimp only
  cases x.always.check .always with
  | error failure => simp [ofChecks]
  | ok _ =>
    cases x.eventually.check .eventually with
    | error failure => simp [ofChecks]
    | ok _ => simp [ofChecks]

theorem Observer.told_pair {α β : Type} (a : Observer α) (b : Observer β) (xs : List Observation)
    (notes : α × β) : (a.pair b).told xs notes = (a.told xs notes.1, b.told xs notes.2) := by
  induction xs generalizing notes with
  | nil => rfl
  | cons x xs ih => exact ih ((a.pair b).onTick x notes)

namespace Dashboard

/-- **Header and outcome.** Whatever a dashboard has shown, once it has taken a frame its header gives the tick
and the time of that frame, and the state is ALWAYS VIOLATED if the frame breaks the always rule, or else
EVENTUALLY MET if it satisfies the eventually rule, or else RUNNING. A run has any link, any sets and any other
observer beside the one that forwards its frames, and its display stays. When it ends without an exception and
all its frames were taken, in batches of any size, the header gives its last tick and the time that it took,
and the three states stand for its three outcomes. -/
theorem header_tells_outcome (d : Dashboard) :
    (∀ (f : Frame) (state : DashboardState),
      Screen.header (d.take f) = Screen.headerText f.world.tick f.elapsed state ↔
        state = .ofChecks (f.always.check .always) (f.eventually.check .eventually)) ∧
    ∀ {σ ω : Type} (o o' : Orchestrator σ (ω × FrameFeed)) (other : Observer ω)
      (always eventually : SequenceSet) (timing : Timing) (outcome : Outcome)
      (batches : List (List Frame)),
      o.engine = .standard → o.observer = other.pair .forwarder →
      o.notes.2.displayAlive = true → o.notes.2.connected = true →
      o.run always eventually timing = some (.ok outcome, o') →
      (∀ e, outcome ≠ .failedException e) →
      batches.flatten = o'.notes.2.frames.toList →
      let shown := Screen.header (batches.foldl drain d)
      let text := Screen.headerText o'.driver.ticks (o'.driver.elapsed.since o.driver.elapsed).seconds
      (shown = text .alwaysViolated ↔ ∃ failure, outcome = .failedAlways failure) ∧
        (shown = text .eventuallyMet ↔ outcome = .passed) ∧
        (shown = text .running ↔ ∃ failure, outcome = .failedEventually failure) := by
  refine ⟨fun f state => header_of_latest rfl state, ?_⟩
  intro σ ω o o' other always eventually timing outcome batches hengine hobserver halive hconnected hrun
    hverdict hbatches shown text
  obtain ⟨xs, x, hlast, rfl, htick, helapsed, hnotes⟩ :=
    Orchestrator.exists_last_of_run hrun hverdict
  -- the outcome adds no frame, so the last one in the feed is that of the last observation
  have hframes : o'.notes.2.frames = o.notes.2.frames ++ (xs.map Observation.frame).toArray := by
    rw [hnotes, hobserver, Observer.told_pair]
    exact Observer.told_forwarder halive hconnected xs
  have hlatest : (batches.foldl drain d).latest = some x.frame := by
    rw [foldl_drain, latest_drain, hbatches, hframes, Array.toList_append, List.getLast?_append,
      List.getLast?_map, hlast]
    rfl
  have hshown (state : DashboardState) : shown = text state ↔
      state = .ofChecks (x.always.check .always) (x.eventually.check .eventually) := by
    unfold shown text
    rw [← htick, ← helapsed]
    exact header_of_latest hlatest state
  rw [hshown, hshown, hshown, hengine]
  exact DashboardState.ofChecks_verdict x

/-- A run whose always rule breaks at its second tick, watched by a dashboard that takes one batch. -/
theorem header_tells_violation :
    let timing : Timing := ⟨⟨50, by decide⟩, ⟨10, by decide⟩⟩
    let early : Predicate := .total "early" fun w => if w.tick < 2 then .pending else .failed "late"
    let always : SequenceSet := ⟨[.fresh "early" [early]]⟩
    let o : Orchestrator Playback (Unit × FrameFeed) :=
      { driver := { link := Playback.link
                    state := { answers := [.ok (.empty 1 0.0), .ok (.empty 2 0.0)] } }
        observer := Observer.idle.pair .forwarder, notes := ((), {}) }
    ∃ (o' : Orchestrator Playback (Unit × FrameFeed)) (failure : Failure),
      o.run always {} timing = some (.ok (.failedAlways failure), o') ∧
        Screen.header ([o'.notes.2.frames.toList].foldl drain {}) =
          "fieldtest  |  t=0.00s  |  Tick: 2  |  ALWAYS VIOLATED" := by
  intro timing early always o
  obtain ⟨o', failure, hrun, hticks, hspent⟩ : ∃ o' failure,
      o.run always {} timing = some (.ok (.failedAlways failure), o') ∧ o'.driver.ticks = 2 ∧
        o'.driver.elapsed.since o.driver.elapsed = ⟨20, by decide⟩ :=
    ⟨_, _, rfl, rfl, rfl⟩
  have hshown := ((header_tells_outcome {}).2 o o' .idle always {} timing _ [o'.notes.2.frames.toList]
    rfl rfl rfl rfl hrun (fun _ h => by cases h) (List.append_nil _)).1.mpr ⟨failure, rfl⟩
  rw [hticks, hspent] at hshown
  refine ⟨o', failure, hrun, hshown.trans ?_⟩
  rfl

end Dashboard

end Lockstep
