import Lockstep.Proofs.Run.Delivery

/-!
The ledger of a driver that is advanced again and again, whatever its link does with the ticks. A link can
keep a log of its calls (`Link.logged`), and a driver does not notice (`TickDriver.exists_attempt`). Read
next to the log, the counter and the clock of a driver account for the ticks that the link took, and for
no others (`TickDriver.advanceAll_accounts`).
-/

namespace Lockstep

/-- A call that a link got, and the answer that it gave. -/
inductive LinkCall where
  | publish (command : TickCommand) (answer : Except LinkError Unit)
  | receive (answer : Except LinkError Snapshot)

namespace LinkCall

/-- The call published a tick. -/
def isPublication : LinkCall → Bool
  | publish _ (.ok _) => true
  | _ => false

/-- The call asked for a snapshot. -/
def isRequest : LinkCall → Bool
  | receive _ => true
  | publish _ _ => false

end LinkCall

/-- The link with a log of its calls, in order. -/
def Link.logged {σ : Type} (link : Link σ) : Link (σ × List LinkCall) where
  publish command s :=
    let (answer, state) := link.publish command s.1
    (answer, state, s.2 ++ [.publish command answer])
  receive s :=
    let (answer, state) := link.receive s.1
    (answer, state, s.2 ++ [.receive answer])

/-- What a link makes of a tick: it does not take it, takes it and has an error in place of a snapshot, or
has a snapshot. -/
inductive Fate where
  | refused (e : LinkError)
  | unanswered (e : LinkError)
  | answered (w : Snapshot)

/-- One advance of a driver, as its link saw it. -/
structure Attempt where
  tick : Span
  fate : Fate

namespace Attempt

def isPublished (a : Attempt) : Bool :=
  match a.fate with
  | .refused _ => false
  | .unanswered _ => true
  | .answered _ => true

/-- The calls of the link. A snapshot is asked for once the tick is published. -/
def calls (a : Attempt) : List LinkCall :=
  match a.fate with
  | .refused e => [.publish (.ofSpan a.tick) (.error e)]
  | .unanswered e => [.publish (.ofSpan a.tick) (.ok ()), .receive (.error e)]
  | .answered w => [.publish (.ofSpan a.tick) (.ok ()), .receive (.ok w)]

/-- What the attempt gives, and what it makes of the driver. One that is refused leaves everything but the link
as it was; any other is counted, whether or not the snapshot is there and has the number of the tick. -/
def Makes {σ : Type} (a : Attempt) (before : TickDriver σ) (answer : Except LinkError Snapshot)
    (after : TickDriver σ) : Prop :=
  match a.fate with
  | .refused e => answer = .error e ∧ after = { before with state := after.state }
  | .unanswered e => answer = .error e ∧ after = before.counted a.tick after.state
  | .answered w =>
    answer = (if w.tick = after.ticks then .ok w else .error (.outOfOrder after.ticks w.tick)) ∧
      after = before.counted a.tick after.state

theorem countP_isPublication_calls (a : Attempt) :
    a.calls.countP LinkCall.isPublication = if a.isPublished then 1 else 0 := by
  rcases a with ⟨tick, _ | _ | _⟩ <;> rfl

theorem countP_isRequest_calls (a : Attempt) :
    a.calls.countP LinkCall.isRequest = if a.isPublished then 1 else 0 := by
  rcases a with ⟨tick, _ | _ | _⟩ <;> rfl

end Attempt

namespace TickDriver

variable {σ : Type}

/-- The driver on a link that keeps a log, with the calls so far. -/
def logged (d : TickDriver σ) (log : List LinkCall) : TickDriver (σ × List LinkCall) :=
  { link := d.link.logged, state := (d.state, log), clock := d.clock, ticks := d.ticks }

/-- Advances by each span of a script in turn, whatever comes of it. -/
def advanceAll (d : TickDriver σ) :
    List Span → List (Except LinkError Snapshot) × TickDriver σ
  | [] => ([], d)
  | tick :: rest =>
    let (answer, d) := d.advance tick
    let (answers, d) := d.advanceAll rest
    (answer :: answers, d)

/-- Whatever a link makes of a tick, it makes the same of it if it keeps a log of its calls. -/
theorem exists_attempt (d : TickDriver σ) (tick : Span) :
    ∃ a : Attempt, a.tick = tick ∧ a.Makes d (d.advance tick).1 (d.moved tick) ∧
      ∀ log, (d.logged log).advance tick =
        ((d.advance tick).1, (d.moved tick).logged (log ++ a.calls)) := by
  rcases hp : d.link.publish (.ofSpan tick) d.state with ⟨e | ⟨⟩, s⟩
  · have hadvance : d.advance tick = (.error e, { d with state := s }) := by
      simp only [advance, issue, hp]
    rw [moved, hadvance]
    refine ⟨⟨tick, .refused e⟩, rfl, ⟨rfl, rfl⟩, ?_⟩
    intro log
    simp only [logged, advance, issue, Link.logged, hp, Attempt.calls]
  -- the tick is published, and the snapshot is asked for
  rcases hr : d.link.receive s with ⟨e | w, t⟩
  · have hadvance : d.advance tick = (.error e, d.counted tick t) := advance_of_unanswered hp hr
    rw [moved, hadvance]
    refine ⟨⟨tick, .unanswered e⟩, rfl, ⟨rfl, rfl⟩, ?_⟩
    intro log
    simp only [logged, advance, issue, collect, counted, Link.logged, hp, hr, Attempt.calls,
      List.append_assoc, List.cons_append, List.nil_append]
  · have hadvance : d.advance tick =
        (if w.tick = d.ticks + 1 then .ok w else .error (.outOfOrder (d.ticks + 1) w.tick),
          d.counted tick t) := by
      simp only [advance, issue, hp, collect, counted, hr]
      split <;> rfl
    rw [moved, hadvance]
    refine ⟨⟨tick, .answered w⟩, rfl, ⟨rfl, rfl⟩, ?_⟩
    intro log
    simp only [logged, advance, issue, collect, counted, Link.logged, hp, hr, Attempt.calls,
      List.append_assoc, List.cons_append, List.nil_append]
    split <;> rfl

/-- The driver is advanced once for each attempt, with these answers. -/
inductive Tries : TickDriver σ → List Attempt → List (Except LinkError Snapshot) → TickDriver σ → Prop
  | nil (d : TickDriver σ) : Tries d [] [] d
  | cons {d d₁ d₂ : TickDriver σ} {a : Attempt} {attempts : List Attempt}
      {answer : Except LinkError Snapshot} {answers : List (Except LinkError Snapshot)}
      (advances : d.advance a.tick = (answer, d₁)) (makes : a.Makes d answer d₁)
      (rest : Tries d₁ attempts answers d₂) : Tries d (a :: attempts) (answer :: answers) d₂

theorem exists_tries (d : TickDriver σ) (script : List Span) :
    ∃ attempts : List Attempt, attempts.map Attempt.tick = script ∧
      d.Tries attempts (d.advanceAll script).1 (d.advanceAll script).2 ∧
      ∀ log, (d.logged log).advanceAll script =
        ((d.advanceAll script).1,
          (d.advanceAll script).2.logged (log ++ attempts.flatMap Attempt.calls)) := by
  induction script generalizing d with
  | nil =>
    refine ⟨[], rfl, .nil d, ?_⟩
    intro log
    rw [List.flatMap_nil, List.append_nil]
    rfl
  | cons tick script ih =>
    obtain ⟨a, rfl, hmakes, hlogged⟩ := d.exists_attempt tick
    obtain ⟨attempts, rfl, htries, hrest⟩ := ih (d.moved a.tick)
    refine ⟨a :: attempts, rfl, .cons rfl hmakes htries, ?_⟩
    intro log
    rw [advanceAll, hlogged]
    dsimp only
    rw [hrest, List.flatMap_cons, ← List.append_assoc]
    rfl

end TickDriver

variable {σ : Type}

namespace Attempt.Makes

variable {a : Attempt} {before after : TickDriver σ} {answer : Except LinkError Snapshot}

theorem ticks_eq (h : a.Makes before answer after) :
    after.ticks = before.ticks + a.calls.countP LinkCall.isPublication := by
  rw [countP_isPublication_calls]
  rcases a with ⟨tick, _ | _ | _⟩ <;> (rw [h.2]; rfl)

theorem clock_eq (h : a.Makes before answer after) :
    after.clock = if a.isPublished then before.clock.advance a.tick else before.clock := by
  rcases a with ⟨tick, _ | _ | _⟩ <;> (rw [h.2]; rfl)

/-- A snapshot that is handed out has the number of the tick that was published for it. -/
theorem tick_eq {w : Snapshot} (h : a.Makes before (.ok w) after) :
    w.tick = after.ticks ∧ after.ticks = before.ticks + 1 := by
  rcases a with ⟨tick, e | e | v⟩
  · cases h.1
  · cases h.1
  · have hcounted : after.ticks = before.ticks + 1 := by rw [h.2]; rfl
    have hanswer := h.1
    split at hanswer
    · rename_i hnumber
      cases hanswer
      exact ⟨hnumber, hcounted⟩
    · cases hanswer

end Attempt.Makes

namespace TickDriver.Tries

variable {d d' : TickDriver σ} {attempts : List Attempt}
  {answers : List (Except LinkError Snapshot)}

/-- The counter moves once for each publication. -/
theorem ticks_eq (h : d.Tries attempts answers d') :
    d'.ticks = d.ticks + (attempts.flatMap Attempt.calls).countP LinkCall.isPublication := by
  induction h with
  | nil => rfl
  | cons _ makes _ ih =>
    rw [ih, makes.ticks_eq, List.flatMap_cons, List.countP_append]
    omega

/-- The clock is moved by the time of the ticks that were published. -/
theorem clock_eq (h : d.Tries attempts answers d') :
    d'.clock.count.toNat = (d.clock.count.toNat +
      ((attempts.filter Attempt.isPublished).map fun a => min a.tick.nanos (2 ^ 64 - 1)).sum) %
        2 ^ 64 := by
  induction h with
  | nil d => exact (Nat.mod_eq_of_lt d.clock.count.toNat_lt).symm
  | @cons _ d₁ _ a _ _ _ _ makes _ ih =>
    rw [ih, makes.clock_eq]
    cases hpublished : a.isPublished with
    | false => rw [List.filter_cons_of_neg (by rw [hpublished]; decide), if_neg (by decide)]
    | true =>
      rw [List.filter_cons_of_pos hpublished, if_pos rfl, Clock.toNat_count_advance_mod,
        List.map_cons, List.sum_cons, Nat.mod_add_mod, Nat.add_assoc]

/-- A snapshot that is handed out has the number of publications up to then. -/
theorem tick_of_answer (h : d.Tries attempts answers d') {n : ℕ} {w : Snapshot}
    (hw : answers[n]? = some (.ok w)) :
    w.tick = d.ticks +
      ((attempts.take (n + 1)).flatMap Attempt.calls).countP LinkCall.isPublication := by
  induction h generalizing n with
  | nil => cases hw
  | @cons d d₁ _ a attempts answer answers _ makes _ ih =>
    rw [List.take_succ_cons, List.flatMap_cons, List.countP_append]
    have hcounted := makes.ticks_eq
    cases n with
    | zero =>
      obtain rfl : answer = .ok w := Option.some.inj hw
      have hnumber : w.tick = d₁.ticks := makes.tick_eq.1
      rw [List.take_zero, List.flatMap_nil, List.countP_nil]
      omega
    | succ n =>
      have hrest := ih hw
      omega

/-- The snapshots that are handed out have numbers that rise, from the counter on. -/
theorem rising (h : d.Tries attempts answers d') :
    (∀ w ∈ answers.filterMap Except.toOption, d.ticks < w.tick) ∧
      (answers.filterMap Except.toOption).Pairwise fun v w => v.tick < w.tick := by
  induction h with
  | nil =>
    refine ⟨?_, List.Pairwise.nil⟩
    intro w hw
    cases hw
  | @cons d d₁ _ _ _ answer answers _ makes _ ih =>
    obtain ⟨hlater, hpair⟩ := ih
    cases answer with
    | error e =>
      -- nothing is handed out, and the counter does not go back
      have hle : d.ticks ≤ d₁.ticks := by
        rw [makes.ticks_eq]
        exact Nat.le_add_right _ _
      exact ⟨fun w hw => Nat.lt_of_le_of_lt hle (hlater w hw), hpair⟩
    | ok v =>
      obtain ⟨hnumber, hcounted⟩ := makes.tick_eq
      have hfirst : (.ok v :: answers).filterMap Except.toOption =
          v :: answers.filterMap Except.toOption := rfl
      rw [hfirst]
      constructor
      · intro w hw
        obtain rfl | hw := List.mem_cons.mp hw
        · omega
        · have hw' := hlater w hw
          omega
      · apply List.Pairwise.cons _ hpair
        intro w hw
        rw [hnumber]
        exact hlater w hw

end TickDriver.Tries

namespace TickDriver

/-- A snapshot is asked for once for each publication. -/
theorem countP_isRequest (attempts : List Attempt) :
    (attempts.flatMap Attempt.calls).countP LinkCall.isRequest =
      (attempts.flatMap Attempt.calls).countP LinkCall.isPublication := by
  rw [List.countP_flatMap, List.countP_flatMap]
  congr 1
  apply List.map_congr_left
  intro a _
  exact (a.countP_isRequest_calls).trans a.countP_isPublication_calls.symm

/-- **Accounts of a driver.** A driver is advanced by the spans of a script, on any link. Each advance is an
attempt that the link refuses, takes without an answer or answers, and `Attempt.Makes` says what comes of it.
A link that keeps a log shows that its calls were those of the attempts, and nothing else changes for it.
The counter has gone up by the number of publications, for each of which one snapshot was asked for; the
clock was moved by the time of the published ticks, cut and wrapped as it counts. A snapshot that was handed
out has the number that the counter then stood at, so the numbers rise and none was handed out twice. Every
script may be followed by more, so this holds after each advance of a script. -/
theorem advanceAll_accounts (d : TickDriver σ) (script : List Span) :
    let answers := (d.advanceAll script).1
    let after := (d.advanceAll script).2
    ∃ attempts : List Attempt, attempts.map Attempt.tick = script ∧ d.Tries attempts answers after ∧
      let log := attempts.flatMap Attempt.calls
      (d.logged []).advanceAll script = (answers, after.logged log) ∧
      after.ticks = d.ticks + log.countP LinkCall.isPublication ∧
      log.countP LinkCall.isRequest = log.countP LinkCall.isPublication ∧
      after.clock.count.toNat = (d.clock.count.toNat + ((attempts.filter Attempt.isPublished).map
        fun a => min a.tick.nanos (2 ^ 64 - 1)).sum) % 2 ^ 64 ∧
      (∀ n w, answers[n]? = some (.ok w) → w.tick = d.ticks +
        ((attempts.take (n + 1)).flatMap Attempt.calls).countP LinkCall.isPublication) ∧
      (answers.filterMap Except.toOption).Pairwise fun v w => v.tick < w.tick := by
  intro answers after
  obtain ⟨attempts, hscript, htries, hlogged⟩ := d.exists_tries script
  exact ⟨attempts, hscript, htries, hlogged [], htries.ticks_eq, countP_isRequest attempts,
    htries.clock_eq, fun n w hw => htries.tick_of_answer hw, htries.rising.2⟩

end TickDriver

end Lockstep
