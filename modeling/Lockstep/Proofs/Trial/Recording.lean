import Lockstep.Proofs.Run.Notes
import Lockstep.Proofs.Trial.Endings
import Lockstep.Run.Export
import Lockstep.Trial.Check

namespace Lockstep

namespace Observer

/-- Part of the notes is a recording, which the observer keeps like an exporter. -/
structure Keeps {ω : Type} (observer : Observer ω) (recording : ω → RunExport) : Prop where
  onTick : ∀ x notes,
    recording (observer.onTick x notes) = exporter.onTick x (recording notes)
  onFinish : ∀ outcome notes,
    recording (observer.onFinish outcome notes) = exporter.onFinish outcome (recording notes)

variable {α β ω : Type} {observer : Observer ω} {recording : ω → RunExport}

theorem keeps_exporter : exporter.Keeps id := ⟨fun _ _ => rfl, fun _ _ => rfl⟩

theorem Keeps.pair_left {a : Observer α} {f : α → RunExport} (h : a.Keeps f) (b : Observer β) :
    (a.pair b).Keeps fun notes => f notes.1 :=
  ⟨fun x notes => h.onTick x notes.1, fun outcome notes => h.onFinish outcome notes.1⟩

theorem Keeps.pair_right {b : Observer β} {f : β → RunExport} (h : b.Keeps f) (a : Observer α) :
    (a.pair b).Keeps fun notes => f notes.2 :=
  ⟨fun x notes => h.onTick x notes.2, fun outcome notes => h.onFinish outcome notes.2⟩

/-- Snapshots say nothing about the end of a run. -/
theorem Keeps.told (h : observer.Keeps recording) (xs : List Observation) (notes : ω) :
    (recording (observer.told xs notes)).outcome = (recording notes).outcome ∧
      (recording (observer.told xs notes)).failureReason = (recording notes).failureReason := by
  induction xs generalizing notes with
  | nil => exact ⟨rfl, rfl⟩
  | cons x xs ih =>
    obtain ⟨houtcome, hreason⟩ := ih (observer.onTick x notes)
    rw [h.onTick] at houtcome hreason
    exact ⟨houtcome, hreason⟩

end Observer

/-- The recording says how its run ended, and why it did not pass. -/
def RunExport.Finalized (e : RunExport) (outcome : Outcome) : Prop :=
  e.outcome = some outcome.kind ∧ e.failureReason = outcome.reason?

/-- The recording does not say that its run has ended. -/
def RunExport.IsOpen (e : RunExport) : Prop := e.outcome = none ∧ e.failureReason = none

theorem RunExport.IsOpen.not_finalized {e : RunExport} (h : e.IsOpen) (outcome : Outcome) :
    ¬ e.Finalized outcome := by
  rintro ⟨houtcome, -⟩
  rw [h.1] at houtcome
  cases houtcome

namespace Trial

variable {config : Config} {display left : Display} {setup : Setup} {R : TestRun} {ω : Type}
  {observer : Observer ω} {notes notes' : ω}

/-- A trial with a valid timing has the outcome of its run, and leaves the notes of its run. -/
theorem exists_run_of_run (hvalid : config.timing.Valid)
    (h : run config display setup observer notes = some (R, notes', left)) :
    ∃ ending o, (orchestrator config setup observer notes).run setup.always setup.eventually
        config.timing = some (ending, o) ∧
      R.outcome = Bridge.outcome ending ∧ notes' = o.notes := by
  rw [run, Config.validate_eq_ok hvalid] at h
  dsimp only at h
  obtain ⟨⟨ending, o⟩, hrun, hend⟩ := Option.map_eq_some_iff.mp h
  refine ⟨ending, o, hrun, ?_⟩
  cases hend
  refine ⟨?_, rfl⟩
  split <;> rfl

/-- A trial with another timing tells its observers nothing. -/
theorem notes_of_run_of_not_valid (hvalid : ¬ config.timing.Valid)
    (h : run config display setup observer notes = some (R, notes', left)) :
    notes' = notes ∧ ∃ e, R = .aborted (.ofTiming e) := by
  obtain ⟨e, hvalidate⟩ := Timing.exists_validate_eq_error hvalid
  rw [run, Config.validate, hvalidate] at h
  cases h
  exact ⟨rfl, e, rfl⟩

/-- What the observers of a trial were told of its end. -/
theorem told_of_run (hvalid : config.timing.Valid)
    (h : run config display setup observer notes = some (R, notes', left)) :
    ∃ xs, (R.outcome.BrokenOff ∧ notes' = observer.told xs notes) ∨
      (¬ R.outcome.BrokenOff ∧ notes' = observer.onFinish R.outcome (observer.told xs notes)) := by
  obtain ⟨ending, o, hrun, houtcome, rfl⟩ := exists_run_of_run hvalid h
  obtain ⟨xs, ⟨panic, rfl, hnotes⟩ | ⟨outcome, rfl, hend, hnotes⟩⟩ := Orchestrator.told_of_run hrun
  · refine ⟨xs, Or.inl ⟨?_, hnotes⟩⟩
    rw [houtcome]
    exact Outcome.brokenOff_ofPanic panic
  · rw [houtcome]
    exact ⟨xs, Or.inr ⟨hend, hnotes⟩⟩

/-- The observers of a trial learn its outcome exactly if its timing is valid and no predicate broke it
off. -/
theorem recording_of_run {recording : ω → RunExport} (hkeeps : observer.Keeps recording)
    (hopen : (recording notes).IsOpen)
    (h : run config display setup observer notes = some (R, notes', left)) :
    ((recording notes').Finalized R.outcome ↔ config.timing.Valid ∧ ¬ R.outcome.BrokenOff) ∧
      ((recording notes').Finalized R.outcome ∨ (recording notes').IsOpen) := by
  by_cases hvalid : config.timing.Valid
  · obtain ⟨xs, ⟨hbroken, rfl⟩ | ⟨hend, rfl⟩⟩ := told_of_run hvalid h
    · -- what was told before the predicate broke off says nothing of the end
      obtain ⟨houtcome, hreason⟩ := hkeeps.told xs notes
      have hstill : (recording (observer.told xs notes)).IsOpen :=
        ⟨houtcome.trans hopen.1, hreason.trans hopen.2⟩
      refine ⟨⟨fun hdone => absurd hdone (hstill.not_finalized _), ?_⟩, Or.inr hstill⟩
      rintro ⟨-, hend⟩
      exact absurd hbroken hend
    · have hdone : (recording (observer.onFinish R.outcome (observer.told xs notes))).Finalized
          R.outcome := by
        rw [hkeeps.onFinish]
        exact ⟨rfl, rfl⟩
      exact ⟨⟨fun _ => ⟨hvalid, hend⟩, fun _ => hdone⟩, Or.inl hdone⟩
  · -- nobody was told anything
    obtain ⟨rfl, -⟩ := notes_of_run_of_not_valid hvalid h
    refine ⟨⟨fun hdone => absurd hdone (hopen.not_finalized _), ?_⟩, Or.inr hopen⟩
    rintro ⟨hok, -⟩
    exact absurd hok hvalid

theorem not_brokenOff_of_isTotal (hvalid : config.timing.Valid) (halways : setup.always.IsTotal)
    (heventually : setup.eventually.IsTotal)
    (h : run config display setup observer notes = some (R, notes', left)) :
    ¬ R.outcome.BrokenOff := by
  obtain ⟨ending, o, hrun, houtcome, -⟩ := exists_run_of_run hvalid h
  obtain ⟨xs, ⟨panic, rfl, -⟩ | ⟨outcome, rfl, hend, -⟩⟩ := Orchestrator.told_of_run hrun
  · exact absurd hrun (Orchestrator.run_ne_error_of_isTotal rfl hvalid halways heventually)
  · rw [houtcome]
    exact hend

end Trial

theorem Scenario.isTotal_build (scenario : Scenario) (seed : UInt64) :
    (scenario.build seed).always.IsTotal ∧ (scenario.build seed).eventually.IsTotal := by
  have hstays (key : RobotKey) : (staysOnField key).IsTotal :=
    SequenceSet.isTotal_fresh (List.forall_mem_singleton.mpr (Predicate.isTotal_total _ _))
  have hreaches : reachesCenter.IsTotal :=
    SequenceSet.isTotal_fresh (List.forall_mem_singleton.mpr (Predicate.isTotal_total _ _))
  -- every predicate in use is a total one
  cases scenario with
  | robotReachesCenter => exact ⟨hstays _, hreaches⟩
  | ballIntoGoal =>
    refine ⟨hstays _, SequenceSet.isTotal_fresh ?_⟩
    intro p hp
    obtain rfl | hp := List.mem_cons.mp hp
    · exact Predicate.isTotal_total _ _
    · obtain rfl := List.mem_singleton.mp hp
      exact Predicate.isTotal_total _ _
  | robotLeavesField => exact ⟨hstays _, SequenceSet.isTotal_empty⟩
  | unreachableTarget => exact ⟨hstays _, hreaches⟩
  | transportDrop => exact ⟨hstays _, SequenceSet.isTotal_empty⟩

/-- The predicates of a built-in scenario never break off, so only its timing counts. -/
theorem ScenarioCheck.recording_of_run {config : Config} {viewer : Bool} {id : RunId} {seed : UInt64}
    {scenario : Scenario} {check : ScenarioCheck}
    (h : run config viewer (some id) seed scenario = some check) :
    ∃ e, check.recording = some e ∧ (e.Finalized check.result.outcome ↔ config.timing.Valid) ∧
      (e.Finalized check.result.outcome ∨ e.IsOpen) := by
  rw [run] at h
  obtain ⟨⟨R, ⟨seen, e⟩, left⟩, hrun, rfl⟩ := Option.map_eq_some_iff.mp h
  have hkeeps := Observer.keeps_exporter.pair_right .recorder
  obtain ⟨hiff, hor⟩ := Trial.recording_of_run hkeeps ⟨rfl, rfl⟩ hrun
  obtain ⟨halways, heventually⟩ := scenario.isTotal_build seed
  refine ⟨e, rfl, ⟨fun hdone => (hiff.mp hdone).1, ?_⟩, hor⟩
  intro hvalid
  exact hiff.mpr ⟨hvalid, Trial.not_brokenOff_of_isTotal hvalid halways heventually hrun⟩

namespace Trial

/-- **What a recording says in the end.** An observer of a trial keeps a recording, which is open when the
trial begins. It is finalized with the outcome of the trial exactly if the timing of the trial is valid and
no predicate broke it off, and is left open otherwise. A check of a built-in scenario that is asked to
record finalizes its recording exactly if its timing is valid. -/
theorem recording_finalized_iff (config : Config) :
    (∀ {ω : Type} (display left : Display) (setup : Setup) (observer : Observer ω)
      (recording : ω → RunExport) (notes notes' : ω) (R : TestRun), observer.Keeps recording →
        (recording notes).IsOpen →
        run config display setup observer notes = some (R, notes', left) →
        ((recording notes').Finalized R.outcome ↔ config.timing.Valid ∧ ¬ R.outcome.BrokenOff) ∧
          ((recording notes').Finalized R.outcome ∨ (recording notes').IsOpen)) ∧
    ∀ (viewer : Bool) (id : RunId) (seed : UInt64) (scenario : Scenario) (check : ScenarioCheck),
      ScenarioCheck.run config viewer (some id) seed scenario = some check →
        ∃ e, check.recording = some e ∧
          (e.Finalized check.result.outcome ↔ config.timing.Valid) ∧
          (e.Finalized check.result.outcome ∨ e.IsOpen) := by
  constructor
  · intro ω display left setup observer recording notes notes' R hkeeps hopen h
    exact recording_of_run hkeeps hopen h
  · intro viewer id seed scenario check h
    exact ScenarioCheck.recording_of_run h

/-- A field that answers no tick, and an exporter that is told before a recorder is. -/
theorem recording_finalized_after_drop :
    let config : Config := {}
    let setup : Setup := { field := .ofSeed 0, faults := ⟨some 0⟩ }
    let observer : Observer (RunExport × Recording) := .pair .exporter .recorder
    let blank : RunExport := .opened ⟨0⟩ "drop" 0 config.timing
    config.timing.Valid ∧ observer.Keeps (fun notes => notes.1) ∧ blank.IsOpen ∧
      ∃ R e seen, run config (.waiting {}) setup observer (blank, {}) =
          some (R, (e, seen), .waiting {}) ∧
        R.outcome = .failedException (.transport .noWorldProducer) ∧ e.Finalized R.outcome := by
  intro config setup observer blank
  have hvalid : config.timing.Valid := by decide
  have hkeeps : observer.Keeps fun notes => notes.1 := Observer.keeps_exporter.pair_left .recorder
  have hopen : blank.IsOpen := ⟨rfl, rfl⟩
  -- before the first tick nothing was watched
  have hwatch : (⟨{}, {}, 0⟩ : Panel).watch config.timing.tick
      (upTo (FieldServer.answer { field := .ofSeed 0 } (.ofSpan config.timing.tick)) 0) =
        .ok ([], ⟨{}, {}, 0⟩) := rfl
  have hrun := run_of_cut hvalid (by decide) hwatch (fun y hy => (List.not_mem_nil hy).elim)
    (Timing.fullTicks_pos hvalid) (.waiting {}) observer (blank, {})
  have hiff := ((recording_finalized_iff config).1 _ _ setup observer _ _ _ _ hkeeps hopen hrun).1
  refine ⟨hvalid, hkeeps, hopen, _, _, _, hrun, rfl, hiff.mpr ⟨hvalid, ?_⟩⟩
  rintro ⟨message, hmessage⟩
  cases hmessage

end Trial

/-- A scenario whose tick is longer than its timeout fails with an exception, and its recording does not
say so. -/
theorem ScenarioCheck.recording_open_of_long_tick :
    let config : Config := { timing := ⟨⟨3000000000, by decide⟩, ⟨5000000000, by decide⟩⟩ }
    ∃ check e, run config false (some ⟨0⟩) 1 .robotReachesCenter = some check ∧
      check.result.outcome.kind = .failedException ∧ check.recording = some e ∧ e.outcome = none :=
  ⟨_, _, rfl, rfl, rfl, rfl⟩

end Lockstep
