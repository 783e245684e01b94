import Lockstep.Proofs.Run.Turns

namespace Lockstep

/-- A predicate broke the run off. -/
def Outcome.BrokenOff (outcome : Outcome) : Prop :=
  ∃ message, outcome = .failedException (.panicked message)

theorem Outcome.brokenOff_ofPanic (panic : Panic) :
    (failedException (.ofPanic panic)).BrokenOff :=
  ⟨panic.message, rfl⟩

/-- The outcome of a run that ends with the observation, as the engine sees it. -/
def Engine.verdict (engine : Engine) (x : Observation) : Outcome :=
  match engine.check .always x.always with
  | .error failure => .failedAlways failure
  | .ok () =>
    match engine.check .eventually x.eventually with
    | .ok () => .passed
    | .error failure => .failedEventually failure

theorem Engine.verdict_not_brokenOff (engine : Engine) (x : Observation) :
    ¬ (engine.verdict x).BrokenOff := by
  rintro ⟨message, h⟩
  unfold verdict at h
  split at h
  · cases h
  · split at h <;> cases h

namespace Orchestrator

variable {σ ω : Type} {o : Orchestrator σ ω} {start : Span} {timing : Timing} {p q : Progress σ ω}

/-- A turn gets a snapshot and reports on it, and leads to a progress in which the observer knows. -/
structure Validates (o : Orchestrator σ ω) (start tick : Span) (p : Progress σ ω) (x : Observation)
    (q : Progress σ ω) : Prop where
  advance : p.driver.advance tick = (.ok x.world, q.driver)
  always : o.engine.evaluate p.always x.world = .ok (x.always, q.always)
  eventually : o.engine.evaluate p.eventually x.world = .ok (x.eventually, q.eventually)
  since : x.elapsed = q.driver.elapsed.since start
  notes : q.notes = o.observer.onTick x p.notes
  elapsed : q.elapsed = x.elapsed
  last : q.last = some x.eventually

/-- Turns that get snapshots and reports on them, one after the other, each with time left before it. -/
inductive Validated (o : Orchestrator σ ω) (start : Span) (timing : Timing) :
    Progress σ ω → List Observation → Progress σ ω → Prop
  | nil (p : Progress σ ω) : Validated o start timing p [] p
  | cons {p q r : Progress σ ω} {x : Observation} {xs : List Observation}
      (time : p.elapsed < timing.timeout) (first : o.Validates start timing.tick p x q)
      (rest : Validated o start timing q xs r) : Validated o start timing p (x :: xs) r

/-- A turn ends the run with an error of the link, or is broken off, or tells the observer what it saw
before anything else becomes of it. -/
theorem turn_cases (o : Orchestrator σ ω) (start tick : Span) (p : Progress σ ω) :
    (∃ e d, p.driver.advance tick = (.error e, d) ∧
      o.turn start tick p = .ended (.failedException (.transport e)) { p with driver := d }) ∨
    (∃ panic q, o.turn start tick p = .broken panic q ∧ q.notes = p.notes ∧
      ∃ w, p.driver.advance tick = (.ok w, q.driver)) ∨
    (∃ x q, o.Validates start tick p x q ∧
      ((o.engine.check .always x.always = .ok () ∧
          (o.turn start tick p = .next q ∨ o.turn start tick p = .judge q)) ∨
        ∃ failure, o.engine.check .always x.always = .error failure ∧
          o.turn start tick p = .ended (.failedAlways failure) q)) := by
  rcases hadvance : p.driver.advance tick with ⟨e | w, d⟩
  · exact Or.inl ⟨e, d, rfl, turn_of_failure hadvance⟩
  right
  cases he : o.engine.evaluate p.eventually w with
  | error panic => exact Or.inl ⟨panic, _, turn_of_break hadvance (Or.inl he), rfl, w, rfl⟩
  | ok eventually =>
    cases ha : o.engine.evaluate p.always w with
    | error panic =>
      exact Or.inl ⟨panic, _, turn_of_break hadvance (Or.inr ⟨eventually, he, ha⟩), rfl, w, rfl⟩
    | ok always =>
      right
      let x : Observation := ⟨d.elapsed.since start, w, eventually.1, always.1⟩
      let c : Panel := ⟨always.2, eventually.2, 0⟩
      refine ⟨x, p.saw o.observer d x c, ⟨hadvance, ha, he, rfl, rfl, rfl, rfl⟩, ?_⟩
      rw [turn_of_evaluate (x := x) (c := c) hadvance he ha rfl rfl]
      cases o.engine.check .always x.always with
      | error failure => exact Or.inr ⟨failure, rfl, rfl⟩
      | ok _ =>
        refine Or.inl ⟨rfl, ?_⟩
        dsimp only
        split
        · exact Or.inr rfl
        · exact Or.inl rfl

theorem judgement_not_brokenOff (p : Progress σ ω) : ¬ (o.judgement p).BrokenOff := by
  rintro ⟨message, h⟩
  unfold judgement at h
  split at h
  · cases h
  · split at h <;> cases h

/-- The eventually rule judges the observation that was made last, if the always rule holds. -/
theorem Validates.judgement {tick : Span} {x : Observation} (h : o.Validates start tick p x q)
    (hcheck : o.engine.check .always x.always = .ok ()) : o.judgement q = o.engine.verdict x := by
  have hlast := h.last
  cases hjudged : o.engine.check .eventually x.eventually with
  | error failure => simp only [Orchestrator.judgement, hlast, Engine.verdict, hcheck, hjudged]
  | ok => simp only [Orchestrator.judgement, hlast, Engine.verdict, hcheck, hjudged]

/-- How the turns of a run come to an end: by a predicate that breaks off, by a tick that fails, by the
timeout before any turn, or with the observation that was made last. -/
inductive Closes (o : Orchestrator σ ω) (timing : Timing) (xs : List Observation) (r : Progress σ ω) :
    Except Panic Outcome → Progress σ ω → Prop
  | broken (panic : Panic) (q : Progress σ ω) (notes : q.notes = r.notes) :
      Closes o timing xs r (.error panic) q
  | cut {e : LinkError} {d : TickDriver σ} (fails : r.driver.advance timing.tick = (.error e, d)) :
      Closes o timing xs r (.ok (.failedException (.transport e))) { r with driver := d }
  | idle (none : xs = []) (time : ¬ r.elapsed < timing.timeout) :
      Closes o timing xs r (.ok (o.judgement r)) r
  | judged {x : Observation} (last : xs.getLast? = some x) :
      Closes o timing xs r (.ok (o.engine.verdict x)) r

/-- A run validates some snapshots and then closes. -/
theorem validated_of_turns {limit : ℕ} {ending : Except Panic Outcome}
    (h : o.turns start timing limit p = some (ending, q)) :
    ∃ xs r, o.Validated start timing p xs r ∧ o.Closes timing xs r ending q := by
  -- by induction on the turns that are left, one case for each way in which the first of them ends
  induction limit generalizing p with
  | zero => cases h
  | succ limit ih =>
    rw [turns] at h
    split at h
    · rename_i htime
      obtain ⟨e, d, hfails, hturn⟩ | ⟨panic, r, hturn, hr, -⟩ |
          ⟨x, r, hx, ⟨hcheck, hturn | hturn⟩ | ⟨failure, hcheck, hturn⟩⟩ :=
        turn_cases o start timing.tick p
      · rw [hturn] at h
        cases h
        exact ⟨[], p, .nil p, .cut hfails⟩
      · rw [hturn] at h
        cases h
        exact ⟨[], p, .nil p, .broken panic q hr⟩
      · -- the turns after this one validate the rest
        rw [hturn] at h
        obtain ⟨xs, s, hxs, hcloses⟩ := ih h
        refine ⟨x :: xs, s, .cons htime hx hxs, ?_⟩
        cases hcloses with
        | broken panic q hq => exact .broken panic q hq
        | cut hfails => exact .cut hfails
        | idle hnone htime' =>
          -- the time was up after this turn, which is the last one
          subst hnone
          cases hxs
          rw [hx.judgement hcheck]
          exact .judged rfl
        | judged hlast =>
          refine .judged ?_
          rw [List.getLast?_cons, hlast]
          rfl
      · rw [hturn] at h
        cases h
        rw [hx.judgement hcheck]
        exact ⟨[x], q, .cons htime hx (.nil q), .judged rfl⟩
      · rw [hturn] at h
        cases h
        have hverdict : o.engine.verdict x = .failedAlways failure := by
          rw [Engine.verdict, hcheck]
        rw [← hverdict]
        exact ⟨[x], q, .cons htime hx (.nil q), .judged rfl⟩
    · rename_i htime
      cases h
      exact ⟨[], q, .nil q, .idle rfl htime⟩

theorem Validated.notes {xs : List Observation} (h : o.Validated start timing p xs q) :
    q.notes = o.observer.told xs p.notes := by
  induction h with
  | nil => rfl
  | cons _ first _ ih =>
    rw [ih, first.notes]
    rfl

/-- The last observation has the number and the time that the driver has come to. -/
theorem Validated.last {xs : List Observation} {x : Observation}
    (h : o.Validated start timing p xs q) (hx : xs.getLast? = some x) :
    x.world.tick = q.driver.ticks ∧ x.elapsed = q.driver.elapsed.since start := by
  induction h with
  | nil => cases hx
  | @cons p q r y ys _ first rest ih =>
    cases rest with
    | nil =>
      have hxy : y = x := Option.some.inj hx
      subst hxy
      exact ⟨(TickDriver.ticks_of_advance first.advance).2.symm, first.since⟩
    | cons _ _ _ =>
      apply ih
      rw [← hx, List.getLast?_cons_cons]

/-- The observer is told of some snapshots, and no outcome of the turns says that they were broken off. -/
theorem told_of_turns {limit : ℕ} {ending : Except Panic Outcome}
    (h : o.turns start timing limit p = some (ending, q)) :
    (∃ xs, q.notes = o.observer.told xs p.notes) ∧
      ∀ outcome, ending = .ok outcome → ¬ outcome.BrokenOff := by
  obtain ⟨xs, r, hxs, hcloses⟩ := validated_of_turns h
  have htold := hxs.notes
  cases hcloses with
  | broken panic _ hq => exact ⟨⟨xs, hq.trans htold⟩, fun _ h => nomatch h⟩
  | cut hfails =>
    refine ⟨⟨xs, htold⟩, ?_⟩
    rintro outcome houtcome ⟨message, rfl⟩
    cases houtcome
  | idle =>
    refine ⟨⟨xs, htold⟩, ?_⟩
    intro outcome houtcome
    cases houtcome
    exact judgement_not_brokenOff _
  | judged hlast =>
    refine ⟨⟨xs, htold⟩, ?_⟩
    intro outcome houtcome
    cases houtcome
    exact o.engine.verdict_not_brokenOff _

/-- A run that is not broken off tells its outcome last. -/
theorem told_of_run {always eventually : SequenceSet} {ending : Except Panic Outcome}
    {o' : Orchestrator σ ω} (h : o.run always eventually timing = some (ending, o')) :
    ∃ xs, (∃ panic, ending = .error panic ∧ o'.notes = o.observer.told xs o.notes) ∨
      (∃ outcome, ending = .ok outcome ∧ ¬ outcome.BrokenOff ∧
        o'.notes = o.observer.onFinish outcome (o.observer.told xs o.notes)) := by
  by_cases hvalid : timing.Valid
  · obtain ⟨q, hturns, rfl⟩ := (run_eq_some_iff hvalid).mp h
    obtain ⟨⟨xs, hxs⟩, hending⟩ := told_of_turns hturns
    have hnotes : q.notes = o.observer.told xs o.notes := hxs
    refine ⟨xs, ?_⟩
    cases ending with
    | error panic => exact Or.inl ⟨panic, rfl, hnotes⟩
    | ok outcome => exact Or.inr ⟨outcome, rfl, hending outcome rfl, by rw [concluded, hnotes]⟩
  · -- the timing is refused, and the observer is told so
    obtain ⟨e, hvalidate⟩ := Timing.exists_validate_eq_error hvalid
    rw [run, hvalidate] at h
    cases h
    refine ⟨[], Or.inr ⟨_, rfl, ?_, rfl⟩⟩
    rintro ⟨message, hmessage⟩
    cases hmessage

/-- A run with a valid timing and an outcome validates some snapshots. Then a tick fails, or it has the verdict
of the observation that it made last. -/
theorem validated_of_run (hvalid : timing.Valid) {always eventually : SequenceSet} {outcome : Outcome}
    {o' : Orchestrator σ ω} (h : o.run always eventually timing = some (.ok outcome, o')) :
    ∃ xs r, o.Validated o.driver.elapsed timing (o.opening always eventually) xs r ∧
      o'.notes = o.observer.onFinish outcome (o.observer.told xs o.notes) ∧
      ((∃ e, r.driver.advance timing.tick = (.error e, o'.driver) ∧
          outcome = .failedException (.transport e)) ∨
        ∃ x, xs.getLast? = some x ∧ o'.driver = r.driver ∧ outcome = o.engine.verdict x) := by
  obtain ⟨q, hturns, rfl⟩ := (run_eq_some_iff hvalid).mp h
  obtain ⟨xs, r, hxs, hcloses⟩ := validated_of_turns hturns
  have hnotes : r.notes = o.observer.told xs o.notes := hxs.notes
  refine ⟨xs, r, hxs, ?_⟩
  rw [← hnotes]
  cases hcloses with
  | cut hfails => exact ⟨rfl, Or.inl ⟨_, hfails, rfl⟩⟩
  | idle hnone htime =>
    -- there is time for a first tick, at least
    subst hnone
    cases hxs
    exact absurd (Nat.lt_of_lt_of_le hvalid.1 hvalid.2) htime
  | judged hlast => exact ⟨rfl, Or.inr ⟨_, hlast, rfl, rfl⟩⟩

/-- A run without an exception has the verdict of the observation that it made last. -/
theorem exists_last_of_run {always eventually : SequenceSet} {outcome : Outcome}
    {o' : Orchestrator σ ω} (h : o.run always eventually timing = some (.ok outcome, o'))
    (hverdict : ∀ e, outcome ≠ .failedException e) :
    ∃ xs x, xs.getLast? = some x ∧ outcome = o.engine.verdict x ∧
      x.world.tick = o'.driver.ticks ∧ x.elapsed = o'.driver.elapsed.since o.driver.elapsed ∧
      o'.notes = o.observer.onFinish outcome (o.observer.told xs o.notes) := by
  by_cases hvalid : timing.Valid
  · obtain ⟨xs, r, hxs, hnotes, ⟨e, -, hcut⟩ | ⟨x, hlast, hdriver, hjudged⟩⟩ := validated_of_run hvalid h
    · exact absurd hcut (hverdict _)
    · obtain ⟨htick, helapsed⟩ := hxs.last hlast
      rw [hdriver]
      exact ⟨xs, x, hlast, hjudged, htick, helapsed, hnotes⟩
  · obtain ⟨e, he⟩ := Timing.exists_validate_eq_error hvalid
    rw [run, he] at h
    cases h
    exact absurd rfl (hverdict _)

/-- A turn on sets whose predicates always reach a verdict leaves such sets to the next one, if there is a
next one. -/
theorem turn_of_isTotal (hengine : o.engine = .standard) (ha : p.always.IsTotal)
    (he : p.eventually.IsTotal) (start tick : Span) :
    ∃ q, (o.turn start tick p = .next q ∧ q.always.IsTotal ∧ q.eventually.IsTotal) ∨
      o.turn start tick p = .judge q ∨ ∃ outcome, o.turn start tick p = .ended outcome q := by
  rcases hadvance : p.driver.advance tick with ⟨e | w, d⟩
  · exact ⟨_, Or.inr (Or.inr ⟨_, turn_of_failure hadvance⟩)⟩
  · obtain ⟨always, a, hea, hta⟩ := SequenceSet.evaluate_of_isTotal ha w
    obtain ⟨eventually, e, hee, hte⟩ := SequenceSet.evaluate_of_isTotal he w
    rw [← show o.engine.evaluate = SequenceSet.evaluate by rw [hengine]; rfl] at hea hee
    let x : Observation := ⟨d.elapsed.since start, w, eventually, always⟩
    let c : Panel := ⟨a, e, 0⟩
    refine ⟨p.saw o.observer d x c, ?_⟩
    rw [turn_of_evaluate (x := x) (c := c) hadvance hee hea rfl rfl]
    cases o.engine.check .always x.always with
    | error failure => exact Or.inr (Or.inr ⟨_, rfl⟩)
    | ok _ =>
      dsimp only
      split
      · exact Or.inr (Or.inl rfl)
      · exact Or.inl ⟨rfl, hta, hte⟩

theorem turns_ne_error_of_isTotal (hengine : o.engine = .standard) (ha : p.always.IsTotal)
    (he : p.eventually.IsTotal) {limit : ℕ} {panic : Panic} :
    o.turns start timing limit p ≠ some (.error panic, q) := by
  induction limit generalizing p with
  | zero =>
    intro h
    cases h
  | succ limit ih =>
    intro h
    rw [turns] at h
    split at h
    · obtain ⟨r, ⟨hturn, hra, hre⟩ | hturn | ⟨outcome, hturn⟩⟩ :=
        turn_of_isTotal hengine ha he start timing.tick
      · rw [hturn] at h
        exact ih hra hre h
      · rw [hturn] at h
        cases h
      · rw [hturn] at h
        cases h
    · cases h

/-- Sets whose predicates always reach a verdict do not break a run off. -/
theorem run_ne_error_of_isTotal (hengine : o.engine = .standard) (hvalid : timing.Valid)
    {always eventually : SequenceSet} (halways : always.IsTotal) (heventually : eventually.IsTotal)
    {panic : Panic} {o' : Orchestrator σ ω} :
    o.run always eventually timing ≠ some (.error panic, o') := by
  intro h
  obtain ⟨q, hturns, -⟩ := (run_eq_some_iff hvalid).mp h
  exact turns_ne_error_of_isTotal hengine halways heventually hturns

end Orchestrator

end Lockstep
