import Lockstep.Proofs.Field.Parties
import Lockstep.Proofs.Field.Server

/-!
The stages of two parties. Whatever the order of their steps, the parties are never elsewhere than at
one of a few stages, and what they can do at each of them is `Stage.Next`: `step_at_iff` says that the
steps of the parties are the steps between stages.
-/

namespace Lockstep

/-- How far the two parties have come. The number is that of the snapshots that were taken; a Boolean
says of an end of a channel whether it is still held. -/
inductive Stage where
  /-- A tick is to be published, and the server listens. -/
  | due (taken : ℕ)
  /-- A tick is in its channel. -/
  | posted (taken : ℕ)
  /-- The server has the tick. -/
  | received (taken : ℕ)
  /-- The server has the snapshot ready. -/
  | answered (taken : ℕ)
  /-- The snapshot is in its channel. -/
  | sent (taken : ℕ)
  /-- The server has left over a tick that it does not answer. -/
  | refused (receiver sink : Bool)
  /-- The driver has left with an error. -/
  | failed (publisher source receiver : Bool)
  /-- The driver has left with all its snapshots. -/
  | done (publisher source : Bool)
  /-- The server has left as well. -/
  | closed (source receiver sink : Bool)

namespace Launch

/-- The ticks that the server answers. -/
def answered (l : Launch) : ℕ :=
  match l.faults.dropAfter with
  | some limit => min limit l.ticks
  | none => l.ticks

theorem answered_le (l : Launch) : l.answered ≤ l.ticks := by
  unfold answered
  split
  · exact min_le_right _ _
  · exact le_refl _

theorem drops_eq_false_iff (l : Launch) {i : ℕ} (hi : i < l.ticks) :
    l.faults.drops i = false ↔ i < l.answered := by
  unfold FaultPlan.drops answered
  cases l.faults.dropAfter with
  | none => simp only [hi]
  | some limit =>
    rw [decide_eq_false_iff_not]
    dsimp only
    omega

theorem allows_answered (l : Launch) : l.faults.Allows l.answered := by
  intro i hi
  have hle := l.answered_le
  exact (l.drops_eq_false_iff (by omega)).mpr hi

/-- The first tick that is not answered is one that the faults let nobody answer. -/
theorem drops_answered (l : Launch) (h : l.answered < l.ticks) :
    l.faults.drops l.answered = true := by
  rw [← Bool.not_eq_false, l.drops_eq_false_iff h]
  exact lt_irrefl _

/-- The snapshot that answers the i-th tick. -/
def snapshot (l : Launch) (i : ℕ) : Snapshot :=
  FieldServer.answer { field := l.field } (.ofSpan l.tick) i

/-- The server when it has answered `n` ticks. -/
def serverAfter (l : Launch) (n : ℕ) : FieldServer :=
  { FieldServer.afterTicks { field := l.field } (.ofSpan l.tick) n with faults := l.faults }

/-- The driver when it has published `n` ticks. -/
def driverAfter (l : Launch) (n : ℕ) (channels : Channels) : TickDriver Channels :=
  { link := Channels.link, state := channels, clock := (·.advance l.tick)^[n] {}, ticks := n }

/-- The channels when nothing is in them and nobody has left. -/
def channels (l : Launch) : Channels := { capacity := l.buffer }

/-- There is room for a snapshot even if a buffer of none was asked for. -/
theorem isFull_channels (l : Launch) : l.channels.isFull = false := by
  rw [Channels.isFull, decide_eq_false_iff_not, not_le]
  exact Nat.lt_of_lt_of_le Nat.zero_lt_one (Nat.le_max_right _ _)

theorem issue_driverAfter (l : Launch) (n : ℕ) (channels : Channels)
    (h : channels.receiver = true) :
    (l.driverAfter n channels).issue l.tick =
      (.ok (), l.driverAfter (n + 1)
        { channels with ticks := channels.ticks ++ [.ofSpan l.tick] }) := by
  simp only [TickDriver.issue, driverAfter, Channels.link, h, ↓reduceIte, TickDriver.counted,
    Function.iterate_succ_apply']

theorem collect_driverAfter (l : Launch) (n : ℕ) (channels : Channels)
    (h : channels.worlds = [l.snapshot (n + 1)]) :
    (l.driverAfter (n + 1) channels).collect =
      (.ok (l.snapshot (n + 1)), l.driverAfter (n + 1) { channels with worlds := [] }) := by
  have htick : (l.snapshot (n + 1)).tick = n + 1 := by
    rw [snapshot, FieldServer.tick_answer]
    exact congrArg (· + 1) (Nat.zero_add n)
  simp only [TickDriver.collect, driverAfter, Channels.link, h, htick, ↓reduceIte]

theorem served_serverAfter (l : Launch) (n : ℕ) : (l.serverAfter n).served = n := by
  have h := FieldServer.served_afterTicks { field := l.field } (.ofSpan l.tick) n
  rw [Nat.zero_add] at h
  exact h

theorem receive_serverAfter (l : Launch) {n : ℕ} (hn : n < l.answered) :
    (l.serverAfter n).receive (.ofSpan l.tick) = (some (l.snapshot (n + 1)), l.serverAfter (n + 1)) := by
  have hdrops : (l.serverAfter n).faults.drops (l.serverAfter n).served = false := by
    rw [served_serverAfter]
    exact l.allows_answered n hn
  rw [FieldServer.receive_of_not_drops hdrops]
  rfl

/-- The server stops at the first tick that it does not answer. -/
theorem receive_serverAfter_answered (l : Launch) (h : l.answered < l.ticks) :
    (l.serverAfter l.answered).receive (.ofSpan l.tick) =
      (none, { l.serverAfter l.answered with stopped := true }) := by
  have hdrops : (l.serverAfter l.answered).faults.drops (l.serverAfter l.answered).served = true := by
    rw [served_serverAfter]
    exact l.drops_answered h
  exact FieldServer.receive_of_drops hdrops _

/-- The stage at which the driver has taken `n` snapshots and goes on with its next tick, if there is
one. -/
def onward (l : Launch) (n : ℕ) : Stage :=
  if n < l.ticks then .due n else .done true true

/-- The parties at a stage. -/
def partiesAt (l : Launch) : Stage → Parties
  | .due n =>
    { tick := l.tick, driver := l.driverAfter n l.channels
      driving := .publishing (l.ticks - n - 1), taken := upTo l.snapshot n
      server := l.serverAfter n }
  | .posted n =>
    { tick := l.tick, driver := l.driverAfter (n + 1) { l.channels with ticks := [.ofSpan l.tick] }
      driving := .awaiting (l.ticks - n - 1), taken := upTo l.snapshot n
      server := l.serverAfter n }
  | .received n =>
    { tick := l.tick, driver := l.driverAfter (n + 1) l.channels
      driving := .awaiting (l.ticks - n - 1), taken := upTo l.snapshot n
      server := l.serverAfter n, serving := .answering (.ofSpan l.tick) }
  | .answered n =>
    { tick := l.tick, driver := l.driverAfter (n + 1) l.channels
      driving := .awaiting (l.ticks - n - 1), taken := upTo l.snapshot n
      server := l.serverAfter (n + 1), serving := .sending (l.snapshot (n + 1)) }
  | .sent n =>
    { tick := l.tick
      driver := l.driverAfter (n + 1) { l.channels with worlds := [l.snapshot (n + 1)] }
      driving := .awaiting (l.ticks - n - 1), taken := upTo l.snapshot n
      server := l.serverAfter (n + 1) }
  | .refused receiver sink =>
    { tick := l.tick
      driver := l.driverAfter (l.answered + 1) { l.channels with receiver, sinks := sink.toNat }
      driving := .awaiting (l.ticks - l.answered - 1), taken := upTo l.snapshot l.answered
      server := { l.serverAfter l.answered with stopped := true }, serving := .leaving }
  | .failed publisher source receiver =>
    { tick := l.tick
      driver := l.driverAfter (l.answered + 1) { l.channels with receiver, sinks := 0 }
      driving := .leaving, taken := upTo l.snapshot l.answered
      error := some .noWorldProducer, publisher, source
      server := { l.serverAfter l.answered with stopped := true }, serving := .leaving }
  | .done publisher source =>
    { tick := l.tick, driver := l.driverAfter l.ticks l.channels
      driving := .leaving, taken := upTo l.snapshot l.ticks, publisher, source
      server := l.serverAfter l.ticks }
  | .closed source receiver sink =>
    { tick := l.tick
      driver := l.driverAfter l.ticks { l.channels with receiver, sinks := sink.toNat }
      driving := .leaving, taken := upTo l.snapshot l.ticks, publisher := false, source
      server := l.serverAfter l.ticks, serving := .leaving }

end Launch

namespace Stage

/-- The stages that there are for a launch. -/
def Occurs (l : Launch) : Stage → Prop
  | due n | posted n | received n => n < l.ticks ∧ n ≤ l.answered
  | answered n | sent n => n < l.answered
  | refused .. | failed .. => l.answered < l.ticks
  | done .. | closed .. => l.answered = l.ticks

/-- The steps from stage to stage. -/
inductive Next (l : Launch) : Stage → Parties.Step → Stage → Prop
  | publish (n : ℕ) : Next l (due n) .publish (posted n)
  | receive (n : ℕ) : Next l (posted n) .receive (received n)
  | answer (n : ℕ) (h : n < l.answered) : Next l (received n) .answer (answered n)
  | send (n : ℕ) : Next l (answered n) .send (sent n)
  | take (n : ℕ) : Next l (sent n) .take (l.onward (n + 1))
  | refuse : Next l (received l.answered) .answer (refused true true)
  | refused_dropReceiver (sink : Bool) :
    Next l (refused true sink) .dropReceiver (refused false sink)
  | refused_dropSink (receiver : Bool) :
    Next l (refused receiver true) .dropSink (refused receiver false)
  | fail (receiver : Bool) : Next l (refused receiver false) .take (failed true true receiver)
  | failed_dropPublisher (source receiver : Bool) :
    Next l (failed true source receiver) .dropPublisher (failed false source receiver)
  | failed_dropSource (publisher receiver : Bool) :
    Next l (failed publisher true receiver) .dropSource (failed publisher false receiver)
  | failed_dropReceiver (publisher source : Bool) :
    Next l (failed publisher source true) .dropReceiver (failed publisher source false)
  | done_dropPublisher (source : Bool) : Next l (done true source) .dropPublisher (done false source)
  | done_dropSource (publisher : Bool) : Next l (done publisher true) .dropSource (done publisher false)
  | close (source : Bool) : Next l (done false source) .receive (closed source true true)
  | closed_dropSource (receiver sink : Bool) :
    Next l (closed true receiver sink) .dropSource (closed false receiver sink)
  | closed_dropReceiver (source sink : Bool) :
    Next l (closed source true sink) .dropReceiver (closed source false sink)
  | closed_dropSink (source receiver : Bool) :
    Next l (closed source receiver true) .dropSink (closed source receiver false)

/-- The steps that are left to take from a stage are at most so many. -/
def rank (l : Launch) : Stage → ℕ
  | due n => 5 * (l.ticks - n) + 5
  | posted n => 5 * (l.ticks - n) + 4
  | received n => 5 * (l.ticks - n) + 3
  | answered n => 5 * (l.ticks - n) + 2
  | sent n => 5 * (l.ticks - n) + 1
  | refused receiver sink => receiver.toNat + sink.toNat + 3
  | failed publisher source receiver => publisher.toNat + source.toNat + receiver.toNat
  | done publisher source => publisher.toNat + source.toNat + 3
  | closed source receiver sink => source.toNat + receiver.toNat + sink.toNat

variable {l : Launch} {st st' : Stage} {a : Parties.Step}

theorem occurs_onward {n : ℕ} (hn : n ≤ l.answered) (hall : n = l.ticks → l.answered = l.ticks) :
    (l.onward n).Occurs l := by
  have hle := l.answered_le
  unfold Launch.onward
  split
  · exact ⟨by assumption, hn⟩
  · exact hall (by omega)

theorem Next.occurs (h : Next l st a st') (hst : st.Occurs l) : st'.Occurs l := by
  have hle := l.answered_le
  cases h with
  | publish n | receive n => exact hst
  | answer n h => exact h
  | send n => exact hst
  | take n =>
    have hn : n < l.answered := hst
    exact occurs_onward hn (by omega)
  | refuse => exact hst.1
  | _ => exact hst

theorem rank_onward_le (l : Launch) (n : ℕ) : rank l (l.onward n) ≤ 5 * (l.ticks - n) + 5 := by
  unfold Launch.onward
  split
  · exact le_refl _
  · exact Nat.le_add_left _ _

theorem Next.rank_lt (h : Next l st a st') (hst : st.Occurs l) : rank l st' < rank l st := by
  have hle := l.answered_le
  cases h with
  | take n =>
    have hn : n < l.answered := hst
    have hnext := rank_onward_le l (n + 1)
    show rank l (l.onward (n + 1)) < 5 * (l.ticks - n) + 1
    omega
  | refuse =>
    have hlt : l.answered < l.ticks := hst.1
    simp only [rank, Bool.toNat_true]
    omega
  | _ =>
    simp only [rank, Bool.toNat_true, Bool.toNat_false]
    omega

/-- Where the parties go on, the driver goes through its ticks. -/
theorem partiesAt_onward (l : Launch) {n : ℕ} (hn : n ≤ l.ticks) :
    l.partiesAt (l.onward n) =
      { tick := l.tick, driver := l.driverAfter n l.channels, driving := .ofTicks (l.ticks - n)
        taken := upTo l.snapshot n, server := l.serverAfter n } := by
  unfold Launch.onward
  by_cases hlt : n < l.ticks
  · obtain ⟨more, hmore⟩ := Nat.exists_eq_add_of_lt hlt
    have hleft : l.ticks - n = more + 1 := by omega
    rw [if_pos hlt, hleft, Launch.partiesAt, hleft]
    rfl
  · obtain rfl : n = l.ticks := by omega
    rw [if_neg hlt, Nat.sub_self]
    rfl

theorem step_of_next (h : Next l st a st') (hst : st.Occurs l) :
    (l.partiesAt st).step a = some (l.partiesAt st') := by
  have hle := l.answered_le
  cases h with
  | publish n =>
    have hissue := l.issue_driverAfter n l.channels rfl
    simp only [Launch.partiesAt, Parties.step, hissue]
    rfl
  | answer n h =>
    simp only [Launch.partiesAt, Parties.step, l.receive_serverAfter h]
  | send n =>
    -- the source is there and the channel empty
    have hchannels : (l.partiesAt (.answered n)).channels = l.channels := rfl
    simp only [Parties.step, hchannels, l.isFull_channels]
    rfl
  | take n =>
    have hn : n + 1 ≤ l.ticks := Nat.lt_of_lt_of_le hst hle
    -- what is taken has the number of ticks published, so the driver goes on
    have hcollect := l.collect_driverAfter n { l.channels with worlds := [l.snapshot (n + 1)] } rfl
    rw [partiesAt_onward l hn, upTo_succ]
    simp only [Launch.partiesAt, Parties.step, hcollect]
    rfl
  | refuse =>
    simp only [Launch.partiesAt, Parties.step, l.receive_serverAfter_answered hst.1]
    rfl
  | _ => rfl

/-- The parties can do nothing else. -/
theorem step_of_not_next (h : ¬ ∃ st', Next l st a st') (hst : st.Occurs l) :
    (l.partiesAt st).step a = none := by
  -- any other step finds its party in another phase, nothing to take, or an end that is dropped already
  cases st with
  | due n =>
    cases a with
    | publish => exact absurd ⟨_, .publish n⟩ h
    | _ => rfl
  | posted n =>
    cases a with
    | receive => exact absurd ⟨_, .receive n⟩ h
    | _ => rfl
  | received n =>
    cases a with
    | answer =>
      obtain hlt | rfl := Nat.lt_or_eq_of_le hst.2
      · exact absurd ⟨_, .answer n hlt⟩ h
      · exact absurd ⟨_, .refuse⟩ h
    | _ => rfl
  | answered n =>
    cases a with
    | send => exact absurd ⟨_, .send n⟩ h
    | _ => rfl
  | sent n =>
    cases a with
    | take => exact absurd ⟨_, .take n⟩ h
    | _ => rfl
  | refused receiver sink =>
    cases a with
    | dropReceiver =>
      cases receiver with
      | true => exact absurd ⟨_, .refused_dropReceiver sink⟩ h
      | false => rfl
    | dropSink =>
      cases sink with
      | true => exact absurd ⟨_, .refused_dropSink receiver⟩ h
      | false => rfl
    | take =>
      cases sink with
      | true => rfl
      | false => exact absurd ⟨_, .fail receiver⟩ h
    | _ => rfl
  | failed publisher source receiver =>
    cases a with
    | dropPublisher =>
      cases publisher with
      | true => exact absurd ⟨_, .failed_dropPublisher source receiver⟩ h
      | false => rfl
    | dropSource =>
      cases source with
      | true => exact absurd ⟨_, .failed_dropSource publisher receiver⟩ h
      | false => rfl
    | dropReceiver =>
      cases receiver with
      | true => exact absurd ⟨_, .failed_dropReceiver publisher source⟩ h
      | false => rfl
    | _ => rfl
  | done publisher source =>
    cases a with
    | dropPublisher =>
      cases publisher with
      | true => exact absurd ⟨_, .done_dropPublisher source⟩ h
      | false => rfl
    | dropSource =>
      cases source with
      | true => exact absurd ⟨_, .done_dropSource publisher⟩ h
      | false => rfl
    | receive =>
      cases publisher with
      | true => rfl
      | false => exact absurd ⟨_, .close source⟩ h
    | _ => rfl
  | closed source receiver sink =>
    cases a with
    | dropSource =>
      cases source with
      | true => exact absurd ⟨_, .closed_dropSource receiver sink⟩ h
      | false => rfl
    | dropReceiver =>
      cases receiver with
      | true => exact absurd ⟨_, .closed_dropReceiver source sink⟩ h
      | false => rfl
    | dropSink =>
      cases sink with
      | true => exact absurd ⟨_, .closed_dropSink source receiver⟩ h
      | false => rfl
    | _ => rfl

/-- The steps of the parties are the steps between stages. -/
theorem step_partiesAt_iff (hst : st.Occurs l) {s : Parties} :
    (l.partiesAt st).step a = some s ↔ ∃ st', Next l st a st' ∧ s = l.partiesAt st' := by
  constructor
  · intro h
    by_cases hnext : ∃ st', Next l st a st'
    · obtain ⟨st', hnext⟩ := hnext
      rw [step_of_next hnext hst] at h
      cases h
      exact ⟨st', hnext, rfl⟩
    · rw [step_of_not_next hnext hst] at h
      cases h
  · rintro ⟨st', hnext, rfl⟩
    exact step_of_next hnext hst

end Stage

end Lockstep
