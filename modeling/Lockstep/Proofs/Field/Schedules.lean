import Lockstep.Proofs.Field.Stages

namespace Lockstep

/-- What holds of the two parties at any time. -/
structure Parties.InLockstep (s : Parties) : Prop where
  /-- At most one of the published ticks is unanswered. -/
  published_le : s.driver.ticks ≤ s.taken.length + 1
  posted_le : s.channels.ticks.length ≤ 1
  sent_le : s.channels.worlds.length ≤ 1
  /-- The server does not wait to send, and does not send in vain. -/
  send_ready : ∀ w, s.serving = .sending w → s.source = true ∧ s.channels.isFull = false
  numbered : NumberedFrom 0 s.taken
  in_order : ∀ expected received, s.error ≠ some (.outOfOrder expected received)
  not_stuck : s.Finished ∨ ∃ a s', s.step a = some s'

namespace Launch

variable {l : Launch} {st : Stage}

/-- The stage at which the parties have nothing left to do. -/
def lastStage (l : Launch) : Stage :=
  if l.answered < l.ticks then .failed false false false else .closed false false false

/-- There is a step to take from every stage but the last. -/
theorem eq_lastStage_or_next (hst : st.Occurs l) :
    st = l.lastStage ∨ ∃ a st', Stage.Next l st a st' := by
  cases st with
  | due n => exact Or.inr ⟨_, _, .publish n⟩
  | posted n => exact Or.inr ⟨_, _, .receive n⟩
  | received n =>
    obtain hlt | rfl := Nat.lt_or_eq_of_le hst.2
    · exact Or.inr ⟨_, _, .answer n hlt⟩
    · exact Or.inr ⟨_, _, .refuse⟩
  | answered n => exact Or.inr ⟨_, _, .send n⟩
  | sent n => exact Or.inr ⟨_, _, .take n⟩
  | refused receiver sink =>
    cases sink with
    | true => exact Or.inr ⟨_, _, .refused_dropSink receiver⟩
    | false => exact Or.inr ⟨_, _, .fail receiver⟩
  | failed publisher source receiver =>
    have hlt : l.answered < l.ticks := hst
    match publisher, source, receiver with
    | true, source, receiver => exact Or.inr ⟨_, _, .failed_dropPublisher source receiver⟩
    | publisher, true, receiver => exact Or.inr ⟨_, _, .failed_dropSource publisher receiver⟩
    | publisher, source, true => exact Or.inr ⟨_, _, .failed_dropReceiver publisher source⟩
    | false, false, false =>
      rw [lastStage, if_pos hlt]
      exact Or.inl rfl
  | done publisher source =>
    cases publisher with
    | true => exact Or.inr ⟨_, _, .done_dropPublisher source⟩
    | false => exact Or.inr ⟨_, _, .close source⟩
  | closed source receiver sink =>
    have hall : l.answered = l.ticks := hst
    match source, receiver, sink with
    | true, receiver, sink => exact Or.inr ⟨_, _, .closed_dropSource receiver sink⟩
    | source, true, sink => exact Or.inr ⟨_, _, .closed_dropReceiver source sink⟩
    | source, receiver, true => exact Or.inr ⟨_, _, .closed_dropSink source receiver⟩
    | false, false, false =>
      rw [lastStage, if_neg (by omega)]
      exact Or.inl rfl

theorem finished_lastStage (l : Launch) : (l.partiesAt l.lastStage).Finished := by
  unfold lastStage
  split
  · exact ⟨rfl, rfl, rfl, rfl, rfl, rfl⟩
  · exact ⟨rfl, rfl, rfl, rfl, rfl, rfl⟩

theorem parties_eq (l : Launch) : l.parties = l.partiesAt (l.onward 0) := by
  rw [Stage.partiesAt_onward l (Nat.zero_le _)]
  rfl

theorem occurs_first (l : Launch) : (l.onward 0).Occurs l := by
  have hle := l.answered_le
  exact Stage.occurs_onward (Nat.zero_le _) (by omega)

/-- A schedule leads from stage to stage, and each of its steps takes one off the rank. -/
theorem steps_partiesAt (hst : st.Occurs l) {as : List Parties.Step} {s : Parties}
    (h : (l.partiesAt st).steps as = some s) :
    ∃ st', st'.Occurs l ∧ s = l.partiesAt st' ∧ as.length + st'.rank l ≤ st.rank l := by
  induction as generalizing st with
  | nil =>
    cases h
    exact ⟨st, hst, rfl, by rw [List.length_nil, Nat.zero_add]⟩
  | cons a as ih =>
    -- the first step leads to a next stage, and the rest of the schedule on from there
    obtain ⟨s₁, hstep, hrest⟩ := Option.bind_eq_some_iff.mp h
    obtain ⟨st₁, hnext, rfl⟩ := (Stage.step_partiesAt_iff hst).mp hstep
    obtain ⟨st', hst', hs, hlen⟩ := ih (hnext.occurs hst) hrest
    have hlt := hnext.rank_lt hst
    refine ⟨st', hst', hs, ?_⟩
    rw [List.length_cons]
    omega

/-- From every stage some schedule leads to the last. -/
theorem exists_steps_lastStage (hst : st.Occurs l) :
    ∃ as, (l.partiesAt st).steps as = some (l.partiesAt l.lastStage) := by
  induction hr : st.rank l using Nat.strong_induction_on generalizing st with
  | _ r ih =>
    obtain rfl | ⟨a, st', hnext⟩ := eq_lastStage_or_next hst
    · exact ⟨[], rfl⟩
    · have hlt := hnext.rank_lt hst
      obtain ⟨as, has⟩ := ih (st'.rank l) (by omega) (hnext.occurs hst) rfl
      refine ⟨a :: as, ?_⟩
      rw [Parties.steps, Stage.step_of_next hnext hst]
      exact has

theorem numberedFrom_snapshots (l : Launch) (n : ℕ) : NumberedFrom 0 (upTo l.snapshot n) := by
  intro i hi
  rw [getElem_upTo, snapshot, FieldServer.tick_answer]

theorem inLockstep_partiesAt (hst : st.Occurs l) : (l.partiesAt st).InLockstep where
  published_le := by
    cases st <;> simp only [partiesAt, driverAfter, length_upTo, le_refl, Nat.le_add_right]
  posted_le := by
    cases st with
    | posted n => exact le_refl 1
    | _ => exact Nat.zero_le 1
  sent_le := by
    cases st with
    | sent n => exact le_refl 1
    | _ => exact Nat.zero_le 1
  send_ready := by
    intro w hw
    cases st with
    | answered n => exact ⟨rfl, l.isFull_channels⟩
    | _ => cases hw
  numbered := by
    cases st <;> exact l.numberedFrom_snapshots _
  in_order := by
    intro expected received h
    cases st <;> cases h
  not_stuck := by
    obtain rfl | ⟨a, st', hnext⟩ := eq_lastStage_or_next hst
    · exact Or.inl l.finished_lastStage
    · exact Or.inr ⟨a, _, Stage.step_of_next hnext hst⟩

/-- A driver that works alone on the link to the server comes to what the parties come to. -/
theorem advanceTimes_eq (l : Launch) :
    ∃ d, (FieldServer.driver l.field l.faults).advanceTimes l.tick l.ticks =
        ((l.partiesAt l.lastStage).taken, (l.partiesAt l.lastStage).error, d) ∧
      d.ticks = (l.partiesAt l.lastStage).driver.ticks ∧
      d.clock = (l.partiesAt l.lastStage).driver.clock ∧
      d.state.server = (l.partiesAt l.lastStage).server := by
  obtain ⟨d, hdelivers, hstate⟩ := FieldServer.driver_delivers l.field l.tick l.allows_answered
  have hticks := hdelivers.ticks
  have hclock := hdelivers.clock_eq
  have htimes := hdelivers.advanceTimes_eq (l.ticks - l.answered)
  have hle := l.answered_le
  rw [length_upTo] at hticks hclock htimes
  rw [Nat.add_sub_of_le hle] at htimes
  rw [htimes, lastStage]
  -- alone with the server the driver stops where the parties do
  by_cases hlt : l.answered < l.ticks
  · -- the tick after the answered ones fails
    obtain ⟨more, hmore⟩ := Nat.exists_eq_add_of_lt hlt
    have hleft : l.ticks - l.answered = more + 1 := by omega
    let post : FieldServer.Post := ⟨{ l.serverAfter l.answered with stopped := true }, []⟩
    have hadvance : d.advance l.tick = (.error .noWorldProducer, d.counted l.tick post) :=
      FieldServer.advance_of_drops l.field (l.drops_answered hlt) hdelivers.link hstate
    rw [hleft, TickDriver.advanceTimes, hadvance, if_pos hlt]
    refine ⟨d.counted l.tick post, ?_, ?_, ?_, rfl⟩
    · exact congrArg (·, _) (List.append_nil _)
    · show d.ticks + 1 = l.answered + 1
      rw [hticks]
      exact congrArg (· + 1) (Nat.zero_add _)
    · show d.clock.advance l.tick = (·.advance l.tick)^[l.answered + 1] {}
      rw [hclock, Function.iterate_succ_apply']
      rfl
  · obtain hall : l.answered = l.ticks := by omega
    rw [hall, Nat.sub_self, if_neg (lt_irrefl _)]
    rw [hall] at hticks hclock hstate
    refine ⟨d, ?_, ?_, hclock, ?_⟩
    · exact congrArg (·, _) (List.append_nil _)
    · exact hticks.trans (Nat.zero_add _)
    · rw [hstate]
      rfl

/-- **Lockstep and schedule independence.** Whatever the order of the steps of the two parties, they are
in lockstep after each of them, there are at most `5 * l.ticks + 5` of them, and every schedule can be
carried on to one and the same end. There both parties have finished, and the snapshots, the error, the
counter, the clock and the server are those of a driver that works alone on the link to the server. -/
theorem schedule_independent (l : Launch) :
    ∃ t : Parties, t.Finished ∧
      (∃ d, (FieldServer.driver l.field l.faults).advanceTimes l.tick l.ticks =
          (t.taken, t.error, d) ∧
        d.ticks = t.driver.ticks ∧ d.clock = t.driver.clock ∧ d.state.server = t.server) ∧
      ∀ as s, l.parties.steps as = some s →
        s.InLockstep ∧ as.length ≤ 5 * l.ticks + 5 ∧ ((∀ a, s.step a = none) → s = t) ∧
          ∃ bs, s.steps bs = some t := by
  refine ⟨l.partiesAt l.lastStage, l.finished_lastStage, l.advanceTimes_eq, ?_⟩
  intro as s hs
  rw [l.parties_eq] at hs
  obtain ⟨st, hst, rfl, hlen⟩ := steps_partiesAt l.occurs_first hs
  -- every state that a schedule leads to is that of a stage
  have hrank := Stage.rank_onward_le l 0
  refine ⟨inLockstep_partiesAt hst, by omega, ?_, exists_steps_lastStage hst⟩
  intro hstuck
  obtain rfl | ⟨a, st', hnext⟩ := eq_lastStage_or_next hst
  · rfl
  · have hstep := Stage.step_of_next hnext hst
    rw [hstuck a] at hstep
    cases hstep

end Launch

end Lockstep
