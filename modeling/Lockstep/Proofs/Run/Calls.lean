import Lockstep.Proofs.Run.Notes
import Lockstep.Run.Export

namespace Lockstep

/-- What an observer is called with. -/
inductive Call where
  | tick (x : Observation)
  | finish (outcome : Outcome)

namespace Observer

/-- Notes after a call. -/
def hear {ω : Type} (observer : Observer ω) (notes : ω) : Call → ω
  | .tick x => observer.onTick x notes
  | .finish outcome => observer.onFinish outcome notes

/-- Notes after some calls. -/
def hears {ω : Type} (observer : Observer ω) (calls : List Call) (notes : ω) : ω :=
  calls.foldl observer.hear notes

/-- Observers in a row, each with notes of its own kind. They are told the same. -/
def each {n : ℕ} {ω : Fin n → Type} (observers : ∀ i, Observer (ω i)) : Observer (∀ i, ω i) where
  onTick x notes i := (observers i).onTick x (notes i)
  onFinish outcome notes i := (observers i).onFinish outcome (notes i)

theorem hears_each {n : ℕ} {ω : Fin n → Type} (observers : ∀ i, Observer (ω i)) (calls : List Call)
    (notes : ∀ i, ω i) (i : Fin n) :
    (each observers).hears calls notes i = (observers i).hears calls (notes i) := by
  induction calls generalizing notes with
  | nil => rfl
  | cons call calls ih =>
    have hcall : (each observers).hear notes call i = (observers i).hear (notes i) call := by
      cases call <;> rfl
    rw [hears, List.foldl_cons, ← hears, ih, hcall]
    rfl

theorem hears_append {ω : Type} (observer : Observer ω) (calls more : List Call) (notes : ω) :
    observer.hears (calls ++ more) notes = observer.hears more (observer.hears calls notes) :=
  List.foldl_append

theorem hears_ticks {ω : Type} (observer : Observer ω) (xs : List Observation) (notes : ω) :
    observer.hears (xs.map .tick) notes = observer.told xs notes :=
  List.foldl_map

/-- The calls of a whole run. -/
theorem hears_run {ω : Type} (observer : Observer ω) (xs : List Observation) (outcome : Outcome)
    (notes : ω) :
    observer.hears (xs.map .tick ++ [.finish outcome]) notes =
      observer.onFinish outcome (observer.told xs notes) := by
  rw [hears_append, hears_ticks]
  rfl

/-- A recording keeps a frame of every observation. -/
theorem frames_told_exporter (xs : List Observation) (e : RunExport) :
    (exporter.told xs e).frames = e.frames ++ (xs.map Observation.frame).toArray := by
  induction xs generalizing e with
  | nil => exact (Array.append_empty).symm
  | cons x xs ih =>
    rw [told, List.foldl_cons, ← told, ih]
    simp [exporter, RunExport.addFrame]

theorem totalTicks_told_exporter (xs : List Observation) (e : RunExport) :
    (exporter.told xs e).totalTicks = (xs.getLast?.map (·.world.tick)).getD e.totalTicks := by
  induction xs generalizing e with
  | nil => rfl
  | cons x xs ih =>
    rw [told, List.foldl_cons, ← told, ih, List.getLast?_cons]
    cases xs.getLast? <;> rfl

/-- A display that stays gets a frame of every observation. -/
theorem told_forwarder {feed : FrameFeed} (halive : feed.displayAlive = true)
    (hconnected : feed.connected = true) (xs : List Observation) :
    (forwarder.told xs feed).frames = feed.frames ++ (xs.map Observation.frame).toArray := by
  induction xs generalizing feed with
  | nil => exact (Array.append_empty).symm
  | cons x xs ih =>
    have hfirst : forwarder.onTick x feed = { feed with frames := feed.frames.push x.frame } := by
      simp only [forwarder, hconnected, halive, Bool.not_true, Bool.false_eq_true, ↓reduceIte]
    have hrest := @ih { feed with frames := feed.frames.push x.frame } halive hconnected
    rw [told, List.foldl_cons, ← told, hfirst, hrest]
    simp

end Observer

/-- The number of the last snapshot is that of the ticks so far. -/
theorem TickDriver.Delivers.getLast_tick {σ : Type} {tick : Span} {d d' : TickDriver σ}
    {ws : List Snapshot} (h : Delivers tick d ws d') :
    (ws.getLast?.map (·.tick)).getD d.ticks = d'.ticks := by
  induction h with
  | nil => rfl
  | @cons _ d₁ _ w ws advances _ ih =>
    rw [(ticks_of_advance advances).2] at ih
    rw [← ih, List.getLast?_cons]
    cases ws.getLast? <;> rfl

namespace Orchestrator

variable {σ ω : Type} {o : Orchestrator σ ω} {start : Span} {timing : Timing} {p q : Progress σ ω}

namespace Validated

variable {xs : List Observation}

theorem delivers (h : o.Validated start timing p xs q) :
    p.driver.Delivers timing.tick (xs.map (·.world)) q.driver := by
  induction h with
  | nil p => exact .nil p.driver
  | cons _ first _ ih => exact .cons first.advance ih

theorem always (h : o.Validated start timing p xs q) :
    along o.engine.evaluate p.always (xs.map (·.world)) = .ok (xs.map (·.always), q.always) := by
  induction h with
  | nil => rfl
  | cons _ first _ ih => exact along_cons_eq_ok_iff.mpr ⟨_, _, _, first.always, ih, rfl⟩

theorem eventually (h : o.Validated start timing p xs q) :
    along o.engine.evaluate p.eventually (xs.map (·.world)) =
      .ok (xs.map (·.eventually), q.eventually) := by
  induction h with
  | nil => rfl
  | cons _ first _ ih => exact along_cons_eq_ok_iff.mpr ⟨_, _, _, first.eventually, ih, rfl⟩

end Validated

/-- The clock of the driver does not run over during the run. -/
def HasTime (o : Orchestrator σ ω) (timing : Timing) : Prop :=
  o.driver.clock.count.toNat + timing.timeout.nanos + timing.tick.nanos ≤ 2 ^ 64

/-- A turn that has time left takes one tick of time. -/
theorem Validates.paced {i : ℕ} {x : Observation}
    (h : o.Validates o.driver.elapsed timing.tick p x q) (hroom : o.HasTime timing)
    (hp : p.Paced o timing i) (htime : p.elapsed < timing.timeout) :
    q.Paced o timing (i + 1) ∧ x.elapsed.nanos = (i + 1) * timing.tick.nanos := by
  have hleft : i * timing.tick.nanos < timing.timeout.nanos := by
    rw [← hp.elapsed]
    exact htime
  have hfits : p.driver.clock.count.toNat + timing.tick.nanos < 2 ^ 64 := by
    rw [hp.clock]
    unfold HasTime at hroom
    omega
  have hclock : q.driver.clock.count.toNat =
      o.driver.clock.count.toNat + (i + 1) * timing.tick.nanos := by
    rw [TickDriver.clock_of_advance h.advance, Clock.toNat_count_advance hfits, hp.clock, Nat.succ_mul]
    omega
  have helapsed : x.elapsed.nanos = (i + 1) * timing.tick.nanos := by
    rw [h.since]
    show q.driver.clock.count.toNat - o.driver.clock.count.toNat = _
    omega
  exact ⟨⟨hclock, by rw [h.elapsed, helapsed]⟩, helapsed⟩

theorem Validated.paced {xs : List Observation} {i : ℕ}
    (h : o.Validated o.driver.elapsed timing p xs q) (hroom : o.HasTime timing)
    (hp : p.Paced o timing i) :
    ∀ (j : ℕ) (hj : j < xs.length), xs[j].elapsed.nanos = (i + j + 1) * timing.tick.nanos := by
  induction h generalizing i with
  | nil =>
    intro j hj
    cases hj
  | cons htime first _ ih =>
    obtain ⟨hq, hx⟩ := first.paced hroom hp htime
    intro j hj
    cases j with
    | zero => exact hx
    | succ j =>
      rw [List.getElem_cons_succ, ih hq j (Nat.lt_of_succ_lt_succ hj)]
      congr 1
      omega

/-- A run has an end: its time is used up after `Timing.fullTicks` ticks. -/
theorem turns_ne_none (hvalid : timing.Valid) (hroom : o.HasTime timing) {limit i : ℕ}
    (hp : p.Paced o timing i) (hi : i ≤ timing.fullTicks) (hlimit : timing.fullTicks < i + limit) :
    o.turns o.driver.elapsed timing limit p ≠ none := by
  induction limit generalizing p i with
  | zero => omega
  | succ limit ih =>
    rw [turns]
    split
    · rename_i htime
      have hlt : i < timing.fullTicks := by
        rw [Timing.lt_fullTicks_iff hvalid, ← hp.elapsed]
        exact htime
      obtain ⟨e, d, -, hturn⟩ | ⟨panic, r, hturn, -⟩ |
          ⟨x, r, hx, ⟨-, hturn | hturn⟩ | ⟨failure, -, hturn⟩⟩ :=
        turn_cases o o.driver.elapsed timing.tick p
      · rw [hturn]
        exact Option.some_ne_none _
      · rw [hturn]
        exact Option.some_ne_none _
      · rw [hturn]
        exact ih (hx.paced hroom hp htime).1 hlt (by omega)
      · rw [hturn]
        exact Option.some_ne_none _
      · rw [hturn]
        exact Option.some_ne_none _
    · exact Option.some_ne_none _

/-- Sets whose predicates always reach a verdict let every run come to an outcome. -/
theorem exists_run_of_isTotal (hengine : o.engine = .standard)
    (hroom : timing.Valid → o.HasTime timing) {always eventually : SequenceSet}
    (halways : always.IsTotal) (heventually : eventually.IsTotal) :
    ∃ outcome o', o.run always eventually timing = some (.ok outcome, o') := by
  by_cases hvalid : timing.Valid
  · have hfull := Timing.mul_lt_of_le_fullTicks hvalid (le_refl timing.fullTicks)
    have hpos : timing.fullTicks * 1 ≤ timing.fullTicks * timing.tick.nanos :=
      Nat.mul_le_mul_left _ hvalid.1
    have hlimit : timing.fullTicks < maxTurns := by
      have htime := hroom hvalid
      unfold HasTime at htime
      show timing.fullTicks < 2 ^ 64
      omega
    have hturns : o.turns o.driver.elapsed timing maxTurns (o.opening always eventually) ≠ none :=
      turns_ne_none hvalid (hroom hvalid) (o.opening_paced always eventually timing)
        (Nat.zero_le _) (by omega)
    obtain ⟨⟨ending, q⟩, hq⟩ := Option.ne_none_iff_exists'.mp hturns
    have hrun := (run_eq_some_iff hvalid).mpr ⟨q, hq, rfl⟩
    cases ending with
    | error panic => exact absurd hrun (run_ne_error_of_isTotal hengine hvalid halways heventually)
    | ok outcome => exact ⟨outcome, _, hrun⟩
  · obtain ⟨e, he⟩ := Timing.exists_validate_eq_error hvalid
    exact ⟨_, _, by rw [run, he]⟩

/-- The orchestrator has taken the snapshots of these observations, up to the given driver, and has reported on
each of them. -/
structure Sees (o : Orchestrator σ ω) (always eventually : SequenceSet) (timing : Timing)
    (xs : List Observation) (d : TickDriver σ) : Prop where
  delivers : o.driver.Delivers timing.tick (xs.map (·.world)) d
  always : ∃ a, along o.engine.evaluate always (xs.map (·.world)) = .ok (xs.map (·.always), a)
  eventually : ∃ e, along o.engine.evaluate eventually (xs.map (·.world)) =
    .ok (xs.map (·.eventually), e)
  elapsed : ∀ (i : ℕ) (hi : i < xs.length), xs[i].elapsed.nanos = (i + 1) * timing.tick.nanos

/-- What a run has come to after some observations: a timing that was refused before the first of them, an error
in place of the next one, or the verdict on the last one. -/
inductive Concludes (o : Orchestrator σ ω) (timing : Timing) (xs : List Observation)
    (d d' : TickDriver σ) : Outcome → Prop
  | refused {e : TimingError} (refuses : timing.validate = .error e) (none : xs = [])
      (still : d' = o.driver) : Concludes o timing xs d d' (.failedException (.ofTiming e))
  | cut {e : LinkError} (valid : timing.Valid) (fails : d.advance timing.tick = (.error e, d')) :
      Concludes o timing xs d d' (.failedException (.transport e))
  | judged {x : Observation} (valid : timing.Valid) (last : xs.getLast? = some x) (still : d' = d) :
      Concludes o timing xs d d' (o.engine.verdict x)

/-- All that a run with an outcome does, whatever the link, the engine, the sets and the observer are. -/
theorem exists_sees_of_run (hroom : timing.Valid → o.HasTime timing) {always eventually : SequenceSet}
    {outcome : Outcome} {o' : Orchestrator σ ω}
    (h : o.run always eventually timing = some (.ok outcome, o')) :
    ∃ xs d, o.Sees always eventually timing xs d ∧ o.Concludes timing xs d o'.driver outcome ∧
      o'.notes = o.observer.onFinish outcome (o.observer.told xs o.notes) := by
  by_cases hvalid : timing.Valid
  · obtain ⟨xs, r, hxs, hnotes, hend⟩ := validated_of_run hvalid h
    have hpaced := hxs.paced (hroom hvalid) (o.opening_paced always eventually timing)
    have hsees : o.Sees always eventually timing xs r.driver := by
      refine ⟨hxs.delivers, ⟨_, hxs.always⟩, ⟨_, hxs.eventually⟩, ?_⟩
      intro i hi
      rw [hpaced i hi, Nat.zero_add]
    refine ⟨xs, r.driver, hsees, ?_, hnotes⟩
    obtain ⟨e, hfails, rfl⟩ | ⟨x, hlast, hdriver, rfl⟩ := hend
    · exact .cut hvalid hfails
    · exact .judged hvalid hlast hdriver
  · obtain ⟨e, he⟩ := Timing.exists_validate_eq_error hvalid
    rw [run, he] at h
    cases h
    refine ⟨[], o.driver, ⟨.nil o.driver, ⟨always, rfl⟩, ⟨eventually, rfl⟩, ?_⟩, .refused he rfl rfl, rfl⟩
    intro i hi
    cases hi

/-- **Calls of a run.** A run has any observers in a row, any link, any engine and any sets; its clock does not
run over. When it comes to an outcome, each observer has been called once for every snapshot that was
validated, in order and with the time of so many ticks, the snapshot and the two reports on it, and then once
with the outcome. No call is made for a tick that failed, and a refused timing leads to the last call only. So a
recording has kept the same frames as a display that stayed, as many of them as its count of ticks says if the
orchestrator was fresh. Predicates that always reach a verdict let the run come to an outcome. -/
theorem calls_of_run {n : ℕ} {ω : Fin n → Type} {observers : ∀ i, Observer (ω i)}
    (o : Orchestrator σ (∀ i, ω i)) (hobservers : o.observer = .each observers)
    {timing : Timing} (hroom : timing.Valid → o.HasTime timing) (always eventually : SequenceSet) :
    (o.engine = .standard → always.IsTotal → eventually.IsTotal →
      ∃ outcome o', o.run always eventually timing = some (.ok outcome, o')) ∧
    ∀ outcome o', o.run always eventually timing = some (.ok outcome, o') →
      ∃ xs d, o.Sees always eventually timing xs d ∧ o.Concludes timing xs d o'.driver outcome ∧
        (∀ i, o'.notes i =
          (observers i).hears (xs.map .tick ++ [.finish outcome]) (o.notes i)) ∧
        ∀ (recording : RunExport) (feed : FrameFeed), feed.displayAlive = true →
          feed.connected = true →
          let recorded := Observer.exporter.hears (xs.map .tick ++ [.finish outcome]) recording
          let shown := Observer.forwarder.hears (xs.map .tick ++ [.finish outcome]) feed
          let frames := (xs.map Observation.frame).toArray
          recorded.frames = recording.frames ++ frames ∧ shown.frames = feed.frames ++ frames ∧
            (o.driver.ticks = 0 → recording.totalTicks = 0 → recorded.totalTicks = frames.size) := by
  refine ⟨fun hengine => exists_run_of_isTotal hengine hroom, ?_⟩
  intro outcome o' hrun
  obtain ⟨xs, d, hsees, hconcludes, hnotes⟩ := exists_sees_of_run hroom hrun
  refine ⟨xs, d, hsees, hconcludes, ?_, ?_⟩
  · intro i
    rw [hnotes, hobservers, ← Observer.hears_run, Observer.hears_each]
  · intro recording feed halive hconnected
    dsimp only
    rw [Observer.hears_run, Observer.hears_run]
    refine ⟨Observer.frames_told_exporter xs recording, Observer.told_forwarder halive hconnected xs, ?_⟩
    intro hfresh hblank
    have hlast : (Observer.exporter.told xs recording).totalTicks = d.ticks := by
      rw [Observer.totalTicks_told_exporter, hblank, ← hfresh, ← hsees.delivers.getLast_tick,
        List.getLast?_map, Option.map_map]
      rfl
    show (Observer.exporter.told xs recording).totalTicks = _
    rw [hlast, hsees.delivers.ticks, hfresh, Nat.zero_add, List.length_map, List.size_toArray,
      List.length_map]

/-- A recording and a display, on a link whose third tick fails. -/
theorem calls_of_run_cut_off :
    let timing : Timing := ⟨⟨50, by decide⟩, ⟨10, by decide⟩⟩
    let ω : Fin 2 → Type := fun | 0 => RunExport | 1 => FrameFeed
    let observers : ∀ i, Observer (ω i) := fun | 0 => .exporter | 1 => .forwarder
    let notes : ∀ i, ω i := fun | 0 => .opened ⟨0⟩ "cut" 7 timing | 1 => {}
    let o : Orchestrator Playback (∀ i, ω i) :=
      { driver := { link := Playback.link
                    state := { answers := [.ok (.empty 1 0.0), .ok (.empty 2 0.0)] } }
        observer := .each observers, notes }
    o.HasTime timing ∧ ∃ (xs : List Observation) (o' : Orchestrator Playback (∀ i, ω i))
        (e : LinkError),
      o.run {} {} timing = some (.ok (.failedException (.transport e)), o') ∧ xs.length = 2 ∧
        (o'.notes 0 : RunExport).frames = (xs.map Observation.frame).toArray ∧
        (o'.notes 1 : FrameFeed).frames = (xs.map Observation.frame).toArray ∧
        (o'.notes 0 : RunExport).totalTicks = 2 := by
  intro timing ω observers notes o
  have hroom : o.HasTime timing := by
    unfold HasTime
    decide
  obtain ⟨e, o', hrun, hsize⟩ : ∃ e o', o.run {} {} timing =
      some (.ok (.failedException (.transport e)), o') ∧ (o'.notes 0 : RunExport).frames.size = 2 :=
    ⟨_, _, rfl, rfl⟩
  obtain ⟨xs, d, -, -, hnotes, hkeep⟩ := (calls_of_run o rfl (fun _ => hroom) {} {}).2 _ o' hrun
  obtain ⟨hrecorded, hshown, hcount⟩ := hkeep (.opened ⟨0⟩ "cut" 7 timing) {} rfl rfl
  have hframes : (o'.notes 0 : RunExport).frames = (xs.map Observation.frame).toArray :=
    (congrArg RunExport.frames (hnotes 0)).trans (hrecorded.trans Array.empty_append)
  have hcopies : (o'.notes 1 : FrameFeed).frames = (xs.map Observation.frame).toArray :=
    (congrArg FrameFeed.frames (hnotes 1)).trans (hshown.trans Array.empty_append)
  have htotal : (o'.notes 0 : RunExport).totalTicks = (xs.map Observation.frame).toArray.size :=
    (congrArg RunExport.totalTicks (hnotes 0)).trans (hcount rfl rfl)
  rw [hframes, List.size_toArray, List.length_map] at hsize
  rw [List.size_toArray, List.length_map, hsize] at htotal
  exact ⟨hroom, xs, o', e, hrun, hsize, hframes, hcopies, htotal⟩

end Orchestrator

end Lockstep
