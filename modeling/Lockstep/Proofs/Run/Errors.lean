import Lockstep.Proofs.Run.Ledger
import Lockstep.Proofs.Run.Notes

namespace Lockstep

/-- A refused timing is told from a run that ended too early. -/
theorem TimingError.message_ne (e : TimingError) :
    e.message ≠ "run ended without issuing a tick" := by
  cases e with
  | zeroTick => decide
  | tickExceedsTimeout tick timeout =>
    intro h
    have hfirst := congrArg (fun text => text.toList.head?) h
    simp [TimingError.message, toString] at hfirst

namespace Orchestrator

variable {σ ω : Type} {o : Orchestrator σ ω} {start : Span} {timing : Timing} {p q : Progress σ ω}

/-- The orchestrator on a link that keeps a log, with the calls so far. -/
def logged (o : Orchestrator σ ω) (log : List LinkCall) : Orchestrator (σ × List LinkCall) ω :=
  { driver := o.driver.logged log, observer := o.observer, notes := o.notes, engine := o.engine
    earlyExit := o.earlyExit }

def Progress.logged (p : Progress σ ω) (log : List LinkCall) : Progress (σ × List LinkCall) ω :=
  { driver := p.driver.logged log, notes := p.notes, always := p.always, eventually := p.eventually
    elapsed := p.elapsed, last := p.last }

def Turn.logged (log : List LinkCall) : Turn σ ω → Turn (σ × List LinkCall) ω
  | .next p => .next (p.logged log)
  | .judge p => .judge (p.logged log)
  | .ended outcome p => .ended outcome (p.logged log)
  | .broken panic p => .broken panic (p.logged log)

/-- A turn is one attempt, and keeping a log of the calls does not change it. -/
theorem exists_attempt_of_turn (o : Orchestrator σ ω) (start tick : Span) (p : Progress σ ω) :
    ∃ a : Attempt, a.tick = tick ∧
      a.Makes p.driver (p.driver.advance tick).1 (p.driver.moved tick) ∧
      ∀ log, (o.logged []).turn start tick (p.logged log) =
        (o.turn start tick p).logged (log ++ a.calls) := by
  obtain ⟨a, htick, hmakes, hlogged⟩ := p.driver.exists_attempt tick
  refine ⟨a, htick, hmakes, ?_⟩
  intro log
  have hadvance : (p.logged log).driver.advance tick =
      ((p.driver.advance tick).1, (p.driver.advance tick).2.logged (log ++ a.calls)) := hlogged log
  rcases hplain : p.driver.advance tick with ⟨e | w, d⟩ <;> rw [hplain] at hadvance
  · rw [turn_of_failure hadvance, turn_of_failure hplain]
    rfl
  -- the two turns look at the same sets with the same engine
  cases he : o.engine.evaluate p.eventually w with
  | error panic =>
    rw [turn_of_break hadvance (Or.inl he), turn_of_break hplain (Or.inl he)]
    rfl
  | ok eventually =>
    cases ha : o.engine.evaluate p.always w with
    | error panic =>
      rw [turn_of_break hadvance (Or.inr ⟨eventually, he, ha⟩),
        turn_of_break hplain (Or.inr ⟨eventually, he, ha⟩)]
      rfl
    | ok always =>
      let x : Observation := ⟨d.elapsed.since start, w, eventually.1, always.1⟩
      let c : Panel := ⟨always.2, eventually.2, 0⟩
      rw [turn_of_evaluate (x := x) (c := c) hadvance he ha rfl rfl,
        turn_of_evaluate (x := x) (c := c) hplain he ha rfl rfl]
      dsimp only [logged]
      cases o.engine.check .always x.always with
      | error failure => rfl
      | ok _ =>
        dsimp only
        split
        · rename_i hexit
          exact if_pos hexit
        · rename_i hstays
          exact if_neg hstays

/-- What the advances of a run have to do with its end. Either the last of them failed, and no other, or all of
them gave snapshots, and the run does not end with an error. -/
inductive Settles : List (Except LinkError Snapshot) → Except Panic Outcome → Prop
  | cut (ws : List Snapshot) (e : LinkError) :
      Settles (ws.map .ok ++ [.error e]) (.ok (.failedException (.transport e)))
  | judged (ws : List Snapshot) {ending : Except Panic Outcome}
      (noError : ∀ error, ending ≠ .ok (.failedException error)) : Settles (ws.map .ok) ending

namespace Settles

variable {answers : List (Except LinkError Snapshot)} {ending : Except Panic Outcome}

theorem cons (w : Snapshot) (h : Settles answers ending) : Settles (.ok w :: answers) ending := by
  cases h with
  | cut ws e => exact .cut (w :: ws) e
  | judged ws noError => exact .judged (w :: ws) noError

/-- The error is that of the first advance that failed. -/
theorem transport_iff (h : Settles answers ending) (e : LinkError) :
    ending = .ok (.failedException (.transport e)) ↔
      answers.find? (fun answer => !answer.isOk) = some (.error e) := by
  have hquiet (ws : List Snapshot) :
      (ws.map (Except.ok (ε := LinkError))).find? (fun answer => !answer.isOk) = none := by
    apply List.find?_eq_none.mpr
    intro answer hanswer
    obtain ⟨w, -, rfl⟩ := List.mem_map.mp hanswer
    exact Bool.false_ne_true
  cases h with
  | cut ws found =>
    rw [List.find?_append, hquiet, Option.none_or]
    constructor
    · intro hending
      cases hending
      rfl
    · intro hfirst
      cases hfirst
      rfl
  | judged ws noError =>
    rw [hquiet]
    exact ⟨fun hending => absurd hending (noError _), fun hfirst => nomatch hfirst⟩

/-- No advance comes after one that failed. -/
theorem isOk_of_mem_dropLast (h : Settles answers ending) :
    ∀ answer ∈ answers.dropLast, answer.isOk = true := by
  intro answer hanswer
  cases h with
  | cut ws e =>
    rw [List.dropLast_concat] at hanswer
    obtain ⟨w, -, rfl⟩ := List.mem_map.mp hanswer
    rfl
  | judged ws _ =>
    obtain ⟨w, -, rfl⟩ := List.mem_map.mp (List.mem_of_mem_dropLast hanswer)
    rfl

theorem exists_transport_eq (h : Settles answers ending) {error : RunError}
    (hending : ending = .ok (.failedException error)) : ∃ e, error = .transport e := by
  cases h with
  | cut ws e =>
    cases hending
    exact ⟨e, rfl⟩
  | judged ws noError => exact absurd hending (noError error)

end Settles

theorem judgement_of_last {report : Report} (hlast : p.last = some report) (error : RunError) :
    o.judgement p ≠ .failedException error := by
  intro h
  rw [judgement, hlast] at h
  dsimp only at h
  split at h <;> cases h

/-- How a turn ends the run that it is taken in, if it does. -/
def Turn.ending? (o : Orchestrator σ ω) : Turn σ ω → Option (Except Panic Outcome × Progress σ ω)
  | .next _ => none
  | .judge p => some (.ok (o.judgement p), p)
  | .ended outcome p => some (.ok outcome, p)
  | .broken panic p => some (.error panic, p)

theorem Turn.ending?_logged (o : Orchestrator σ ω) (t : Turn σ ω) (log : List LinkCall) :
    (t.logged log).ending? (o.logged []) =
      (t.ending? o).map fun end' => (end'.1, end'.2.logged log) := by
  cases t <;> rfl

theorem turns_of_next {limit : ℕ} (htime : p.elapsed < timing.timeout)
    (hturn : o.turn start timing.tick p = .next q) :
    o.turns start timing (limit + 1) p = o.turns start timing limit q := by
  rw [turns, if_pos htime, hturn]

theorem turns_of_ending {limit : ℕ} {e : Except Panic Outcome × Progress σ ω}
    (htime : p.elapsed < timing.timeout) (hturn : (o.turn start timing.tick p).ending? o = some e) :
    o.turns start timing (limit + 1) p = some e := by
  rw [turns, if_pos htime]
  cases h : o.turn start timing.tick p <;> rw [h] at hturn
  · cases hturn
  all_goals exact hturn

/-- A turn leads to the next one, or ends the run as the only attempt in it would. -/
theorem turn_next_or_ending (o : Orchestrator σ ω) (start tick : Span) (p : Progress σ ω) :
    (∃ w q, p.driver.advance tick = (.ok w, q.driver) ∧ (∃ report, q.last = some report) ∧
      o.turn start tick p = .next q) ∨
    ∃ answer ending q, p.driver.advance tick = (answer, q.driver) ∧ Settles [answer] ending ∧
      (o.turn start tick p).ending? o = some (ending, q) := by
  obtain ⟨e, d, hadvance, hturn⟩ | ⟨panic, q, hturn, -, w, hadvance⟩ |
      ⟨x, q, hx, ⟨-, hturn | hturn⟩ | ⟨failure, -, hturn⟩⟩ := turn_cases o start tick p
  · exact Or.inr ⟨.error e, _, _, hadvance, .cut [] e, by rw [hturn]; rfl⟩
  · exact Or.inr ⟨.ok w, .error panic, q, hadvance, .judged [w] (fun _ h => nomatch h),
      by rw [hturn]; rfl⟩
  · exact Or.inl ⟨x.world, q, hx.advance, ⟨_, hx.last⟩, hturn⟩
  · refine Or.inr ⟨.ok x.world, _, q, hx.advance, .judged [x.world] ?_, by rw [hturn]; rfl⟩
    intro error herror
    exact judgement_of_last hx.last error (Except.ok.inj herror)
  · exact Or.inr ⟨.ok x.world, .ok (.failedAlways failure), q, hx.advance,
      .judged [x.world] (fun _ h => nomatch h), by rw [hturn]; rfl⟩

/-- The turns of a run are attempts, with which it settles. There is time for a turn, or there was. -/
theorem exists_tries_of_turns {limit : ℕ} {ending : Except Panic Outcome}
    (hp : p.elapsed < timing.timeout ∨ ∃ report, p.last = some report)
    (h : o.turns start timing limit p = some (ending, q)) :
    ∃ attempts answers, (∀ a ∈ attempts, a.tick = timing.tick) ∧
      p.driver.Tries attempts answers q.driver ∧ Settles answers ending ∧
      ∀ log, (o.logged []).turns start timing limit (p.logged log) =
        some (ending, q.logged (log ++ attempts.flatMap Attempt.calls)) := by
  -- by induction on the turns that are left; a turn without a next one is the last attempt
  induction limit generalizing p with
  | zero => cases h
  | succ limit ih =>
    by_cases htime : p.elapsed < timing.timeout
    · obtain ⟨a, htick, hmakes, hlogged⟩ := o.exists_attempt_of_turn start timing.tick p
      have htime' (log : List LinkCall) : (p.logged log).elapsed < timing.timeout := htime
      obtain ⟨w, r, hadvance, hlast, hturn⟩ | ⟨answer, found, r, hadvance, hsettles, hturn⟩ :=
        turn_next_or_ending o start timing.tick p
      · rw [turns_of_next htime hturn] at h
        obtain ⟨attempts, answers, hticks, htries, hsettles, hrest⟩ := ih (Or.inr hlast) h
        rw [TickDriver.moved, hadvance] at hmakes
        rw [← htick] at hadvance
        refine ⟨a :: attempts, .ok w :: answers, List.forall_mem_cons.mpr ⟨htick, hticks⟩,
          .cons hadvance hmakes htries, hsettles.cons w, ?_⟩
        intro log
        have hnext : (o.logged []).turn start timing.tick (p.logged log) =
            .next (r.logged (log ++ a.calls)) := by
          rw [hlogged, hturn]
          rfl
        rw [turns_of_next (htime' log) hnext, hrest, List.flatMap_cons, List.append_assoc]
      · rw [turns_of_ending htime hturn] at h
        cases h
        rw [TickDriver.moved, hadvance] at hmakes
        rw [← htick] at hadvance
        refine ⟨[a], [answer], List.forall_mem_singleton.mpr htick, .cons hadvance hmakes (.nil _),
          hsettles, ?_⟩
        intro log
        apply turns_of_ending (htime' log)
        rw [hlogged, Turn.ending?_logged, hturn, List.flatMap_singleton]
        rfl
    · -- the time is up, so there was a turn before, whose report decides
      obtain ⟨report, hreport⟩ := hp.resolve_left htime
      rw [turns, if_neg htime] at h
      cases h
      refine ⟨[], [], List.forall_mem_nil _, .nil _, .judged [] ?_, ?_⟩
      · intro error herror
        exact judgement_of_last hreport error (Except.ok.inj herror)
      · intro log
        rw [turns, if_neg (show ¬ (q.logged log).elapsed < timing.timeout from htime),
          List.flatMap_nil, List.append_nil]
        rfl

/-- A run is attempts, with which it settles, unless its timing is refused. -/
theorem exists_tries_of_run {always eventually : SequenceSet} {ending : Except Panic Outcome}
    {o' : Orchestrator σ ω} (h : o.run always eventually timing = some (ending, o')) :
    ∃ attempts answers, (∀ a ∈ attempts, a.tick = timing.tick) ∧
      o.driver.Tries attempts answers o'.driver ∧
      (o.logged []).run always eventually timing =
        some (ending, o'.logged (attempts.flatMap Attempt.calls)) ∧
      ((timing.Valid ∧ Settles answers ending) ∨
        ∃ refusal, timing.validate = .error refusal ∧
          ending = .ok (.failedException (.ofTiming refusal)) ∧ attempts = [] ∧ answers = [] ∧
          o'.driver = o.driver) := by
  by_cases hvalid : timing.Valid
  · obtain ⟨q, hturns, rfl⟩ := (run_eq_some_iff hvalid).mp h
    have htime : (o.opening always eventually).elapsed < timing.timeout :=
      Nat.lt_of_lt_of_le hvalid.1 hvalid.2
    obtain ⟨attempts, answers, hticks, htries, hsettles, hlogged⟩ :=
      exists_tries_of_turns (Or.inl htime) hturns
    have hdriver : (o.concluded ending q).driver = q.driver := by cases ending <;> rfl
    have hconcluded : (o.logged []).concluded ending (q.logged (attempts.flatMap Attempt.calls)) =
        (o.concluded ending q).logged (attempts.flatMap Attempt.calls) := by cases ending <;> rfl
    rw [hdriver]
    refine ⟨attempts, answers, hticks, htries, ?_, Or.inl ⟨hvalid, hsettles⟩⟩
    rw [← hconcluded]
    exact (run_eq_some_iff hvalid).mpr ⟨_, hlogged [], rfl⟩
  · obtain ⟨refusal, hrefusal⟩ := Timing.exists_validate_eq_error hvalid
    rw [run, hrefusal] at h
    cases h
    refine ⟨[], [], List.forall_mem_nil _, .nil _, ?_, Or.inr ⟨refusal, hrefusal, rfl, rfl, rfl, rfl⟩⟩
    rw [run, hrefusal]
    rfl

/-- **Errors of a run.** A run that comes to an end, on any link and with any engine and sets. Sets whose
predicates always reach a verdict lead to an outcome. A run with an outcome has advanced its driver by its tick
some times, and a log of the calls shows nothing else. It ends with an error of its configuration exactly if the
timing is not valid; then it has not advanced at all. It ends with an error of the link exactly if an advance
failed; the error is that of the first one that did, after which there is no other. No other error ends a run: a
refusal of the timing or an error of the link is behind each, so a run never ends for want of a tick. -/
theorem run_errors {always eventually : SequenceSet} {ending : Except Panic Outcome}
    {o' : Orchestrator σ ω} (h : o.run always eventually timing = some (ending, o')) :
    (o.engine = .standard → always.IsTotal → eventually.IsTotal → ∃ outcome, ending = .ok outcome) ∧
    ∀ outcome, ending = .ok outcome →
      ∃ (attempts : List Attempt) (answers : List (Except LinkError Snapshot)),
        (∀ a ∈ attempts, a.tick = timing.tick) ∧ o.driver.Tries attempts answers o'.driver ∧
        (o.logged []).run always eventually timing =
          some (.ok outcome, o'.logged (attempts.flatMap Attempt.calls)) ∧
        ((∃ message, outcome = .failedException (.configuration message)) ↔ ¬ timing.Valid) ∧
        (¬ timing.Valid → attempts = [] ∧ o'.driver = o.driver) ∧
        (∀ e, outcome = .failedException (.transport e) ↔
          answers.find? (fun answer => !answer.isOk) = some (.error e)) ∧
        (∀ answer ∈ answers.dropLast, answer.isOk = true) ∧
        (∀ error, outcome = .failedException error →
          (∃ refusal, timing.validate = .error refusal ∧ error = .ofTiming refusal) ∨
            ∃ e, error = .transport e) ∧
        outcome ≠ .failedException (.configuration "run ended without issuing a tick") := by
  constructor
  · intro hengine halways heventually
    cases ending with
    | ok outcome => exact ⟨outcome, rfl⟩
    | error panic =>
      by_cases hvalid : timing.Valid
      · exact absurd h (run_ne_error_of_isTotal hengine hvalid halways heventually)
      · obtain ⟨refusal, hrefusal⟩ := Timing.exists_validate_eq_error hvalid
        rw [run, hrefusal] at h
        cases h
  rintro outcome rfl
  obtain ⟨attempts, answers, hticks, htries, hlogged, hend⟩ := exists_tries_of_run h
  refine ⟨attempts, answers, hticks, htries, hlogged, ?_⟩
  -- either the link was called and decides about the error, or the timing was refused and it was not
  obtain ⟨hvalid, hsettles⟩ | ⟨refusal, hrefusal, hending, rfl, rfl, hdriver⟩ := hend
  · have hlink {error : RunError} (herror : outcome = .failedException error) :
        ∃ e, error = .transport e := hsettles.exists_transport_eq (congrArg Except.ok herror)
    have hconfiguration (message : String) :
        outcome ≠ .failedException (.configuration message) := by
      intro hmessage
      obtain ⟨e, he⟩ := hlink hmessage
      cases he
    refine ⟨⟨?_, absurd hvalid⟩, absurd hvalid, ?_, hsettles.isOk_of_mem_dropLast,
      fun error herror => Or.inr (hlink herror), hconfiguration _⟩
    · rintro ⟨message, hmessage⟩
      exact absurd hmessage (hconfiguration message)
    · intro e
      rw [← hsettles.transport_iff]
      exact Except.ok.injEq _ _ ▸ Iff.rfl
  · have hinvalid : ¬ timing.Valid := by
      rw [← Timing.validate_eq_ok_iff, hrefusal]
      intro hok
      cases hok
    cases hending
    refine ⟨⟨fun _ => hinvalid, fun _ => ⟨_, rfl⟩⟩, fun _ => ⟨rfl, hdriver⟩, ?_, ?_, ?_, ?_⟩
    · intro e
      constructor
      · intro hlink
        cases hlink
      · intro hfirst
        cases hfirst
    · intro answer hanswer
      cases hanswer
    · intro error herror
      cases herror
      exact Or.inl ⟨refusal, hrefusal, rfl⟩
    · intro htext
      have hmessage : RunError.ofTiming refusal = .configuration _ := Outcome.failedException.inj htext
      exact refusal.message_ne (RunError.configuration.inj hmessage)

/-- An orchestrator in use, whose second tick is answered with a snapshot of a later one. -/
theorem run_errors_out_of_order :
    let timing : Timing := ⟨⟨50, by decide⟩, ⟨10, by decide⟩⟩
    let o : Orchestrator Playback Unit :=
      { driver := { link := Playback.link
                    state := { answers := [.ok (.empty 4 0.0), .ok (.empty 9 0.0), .ok (.empty 6 0.0)] }
                    clock := ⟨30⟩, ticks := 3 }
        observer := .idle, notes := () }
    ∃ o' attempts answers,
      o.run {} {} timing = some (.ok (.failedException (.transport (.outOfOrder 5 9))), o') ∧
        o.driver.Tries attempts answers o'.driver ∧ o'.driver.ticks = 5 ∧
        answers.find? (fun answer => !answer.isOk) = some (.error (.outOfOrder 5 9)) := by
  intro timing o
  obtain ⟨o', hrun, hticks⟩ : ∃ o', o.run {} {} timing =
      some (.ok (.failedException (.transport (.outOfOrder 5 9))), o') ∧ o'.driver.ticks = 5 :=
    ⟨_, rfl, rfl⟩
  obtain ⟨attempts, answers, -, htries, -, -, -, hfirst, -⟩ := (run_errors hrun).2 _ rfl
  exact ⟨o', attempts, answers, hrun, htries, hticks, (hfirst _).mp rfl⟩

end Orchestrator

end Lockstep
