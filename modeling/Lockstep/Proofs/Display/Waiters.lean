import Lockstep.Proofs.Display.Threads
import Lockstep.Proofs.Shared.Scripts

/-!
Waiting for a signal that others may close. A script closes signals, waits for them and makes handles on them; a
wait that was begun on an open signal may end at any later place of the script, with the token or without. The flag
goes up with the first close through a family of handles and stays up, and only that close leaves a token. Whoever
waits is told of the flag, so it makes no difference who took the token (`CloseSignal.closed_of_script`).
-/

namespace Lockstep.CloseSignal

variable {s t : CloseSignal}

/-- What comes of a wait that found an open signal, when others have had their turn: it takes the token, if it is there
in time, and answers by the flag. -/
def resume (s : CloseSignal) (inTime : Bool) : Bool × CloseSignal :=
  (s.closed, if inTime then s.take else s)

/-- A wait that nobody interferes with goes on as soon as it has begun. -/
theorem waitTimeout_eq (s : CloseSignal) :
    s.waitTimeout = if s.closed then (true, s) else s.resume true := rfl

/-- A wait without limit. It consists of waits of limited length, and ends with the first that finds the signal
closed. -/
inductive WaitEnds : CloseSignal → CloseSignal → Prop
  | last {s : CloseSignal} (closed : s.waitTimeout.1 = true) : WaitEnds s s.waitTimeout.2
  | further {s t : CloseSignal} (opened : s.waitTimeout.1 = false) (rest : WaitEnds s.waitTimeout.2 t) :
      WaitEnds s t

theorem close_of_closed (hclosed : s.closed = true) : s.close = s := by
  rw [close, if_pos hclosed]

theorem waitTimeout_of_closed (hclosed : s.closed = true) : s.waitTimeout = (true, s) := by
  rw [waitTimeout_eq, if_pos hclosed]

theorem waitTimeout_of_open (hopen : s.closed = false) : s.waitTimeout = (false, s.take) := by
  rw [waitTimeout_eq, hopen, resume, hopen]
  rfl

theorem waitTimeout_fst (s : CloseSignal) : s.waitTimeout.1 = s.closed := by
  cases hclosed : s.closed with
  | true => rw [waitTimeout_of_closed hclosed]
  | false => rw [waitTimeout_of_open hclosed]

theorem wait?_eq (s : CloseSignal) : s.wait? = if s.closed then some s else none := by
  rw [wait?]
  cases hclosed : s.closed with
  | true => rw [waitTimeout_of_closed hclosed]
  | false =>
    rw [waitTimeout_of_open hclosed]
    rfl

/-- No number of waits ends on a signal that stays open. -/
theorem wait?_eq_some_iff : s.wait? = some t ↔ WaitEnds s t := by
  constructor
  · intro hwait
    rw [wait?_eq, Option.ite_none_right_eq_some, Option.some.injEq] at hwait
    obtain ⟨hclosed, rfl⟩ := hwait
    have hends : WaitEnds s s.waitTimeout.2 := .last (s.waitTimeout_fst.trans hclosed)
    rwa [waitTimeout_of_closed hclosed] at hends
  · intro hends
    induction hends with
    | @last s hlast =>
      have hclosed : s.closed = true := s.waitTimeout_fst.symm.trans hlast
      rw [wait?_eq, if_pos hclosed, waitTimeout_of_closed hclosed]
    | @further s t hopened _ ih =>
      -- the flag is down, so the next wait finds it down
      have hopen : s.closed = false := s.waitTimeout_fst.symm.trans hopened
      rw [waitTimeout_of_open hopen, wait?_eq, take, hopen] at ih
      cases ih

theorem exists_waitEnds_iff : (∃ t, WaitEnds s t) ↔ s.closed = true := by
  simp only [← wait?_eq_some_iff, wait?_eq]
  cases s.closed <;> simp

/-- What happens in a script: a step, or the end of a wait that was begun before on an open signal. -/
inductive Event where
  | step (s : Step)
  | resume (handle : ℕ) (inTime : Bool)

namespace Scene

def isClosed (c : Scene) (handle : ℕ) : Bool := (c.signals.read? handle).any (·.closed)

theorem isClosed_eq {c : Scene} {h : ℕ} (hs : c.signals.read? h = some s) : c.isClosed h = s.closed := by
  rw [isClosed, hs, Option.any_some]

end Scene

namespace Event

def perform (c : Scene) : Event → Option (Answer × Scene)
  | step s => s.perform c
  | resume handle inTime => (c.signals.read? handle).map fun s =>
    (.closed (s.resume inTime).1, { c with signals := c.signals.modify handle fun s => (s.resume inTime).2 })

/-- The event as a change of shared cells. The display has the first handle. -/
def change : Event → Shared.Change CloseSignal
  | step (.close handle) => .update handle CloseSignal.close
  | step .closeDisplay => .update 0 CloseSignal.close
  | step (.waitTimeout handle) => .update handle fun s => s.waitTimeout.2
  | resume handle inTime => .update handle fun s => (s.resume inTime).2
  -- these two end on a closed signal only, and leave its token
  | step (.wait handle) => .update handle id
  | step .showDisplay => .update 0 id
  | step (.clone handle) => .clone handle
  | step .fresh => .fresh

/-- The handle through which the event closes a signal. -/
def closing? : Event → Option ℕ
  | step (.close handle) => some handle
  | step .closeDisplay => some 0
  | _ => none

/-- What there is to answer when the given handles are on closed signals. -/
def reply (closed : ℕ → Bool) : Event → Answer
  | step (.waitTimeout handle) | resume handle _ => .closed (closed handle)
  | step (.wait handle) => if closed handle then .nothing else .wouldBlock
  | step .showDisplay => if closed 0 then .shown else .wouldBlock
  | step (.close _) | step .closeDisplay | step (.clone _) | step .fresh => .nothing

theorem reply_congr {e : Event} {closed closed' : ℕ → Bool}
    (hsame : ∀ h ∈ e.change.handle?, closed h = closed' h) : e.reply closed = e.reply closed' := by
  cases e with
  | resume h inTime => exact congrArg Answer.closed (hsame h rfl)
  | step s =>
    cases s with
    | waitTimeout h => exact congrArg Answer.closed (hsame h rfl)
    | wait h =>
      rw [reply, reply, hsame h rfl]
    | showDisplay =>
      rw [reply, reply, hsame 0 rfl]
    | _ => rfl

/-- An event answers by the flags, and does to the cells what its change does. -/
theorem exists_perform {c : Scene} {e : Event} {signals : Shared CloseSignal}
    (happly : e.change.apply {} c.signals = some signals) :
    ∃ shown, e.perform c = some (e.reply c.isClosed, { signals, shown }) := by
  -- a wait that ends puts back what was there
  have hsame {h : ℕ} {s : CloseSignal} (hs : c.signals.read? h = some s) :
      c.signals.modify h (fun _ => s) = c.signals := Shared.modify_of_fixed hs rfl
  cases e with
  | resume h inTime =>
    obtain ⟨s, hs, rfl⟩ := Option.map_eq_some_iff.mp happly
    refine ⟨c.shown, ?_⟩
    rw [perform, hs, Option.map_some, reply, Scene.isClosed_eq hs]
    rfl
  | step st =>
    cases st with
    | close h =>
      obtain ⟨s, hs, rfl⟩ := Option.map_eq_some_iff.mp happly
      refine ⟨c.shown, ?_⟩
      rw [perform, Step.perform, hs]
      rfl
    | waitTimeout h =>
      obtain ⟨s, hs, rfl⟩ := Option.map_eq_some_iff.mp happly
      refine ⟨c.shown, ?_⟩
      rw [perform, Step.perform, hs, Option.map_some, reply, Scene.isClosed_eq hs, waitTimeout_fst]
    | wait h =>
      obtain ⟨s, hs, rfl⟩ := Option.map_eq_some_iff.mp happly
      refine ⟨c.shown, ?_⟩
      rw [perform, Step.perform, hs, Option.map_some, reply, Scene.isClosed_eq hs, wait?_eq, Shared.modify_id]
      cases s.closed with
      | true =>
        simp only [↓reduceIte, hsame hs]
      | false => rfl
    | showDisplay =>
      obtain ⟨s, hs, rfl⟩ := Option.map_eq_some_iff.mp happly
      rw [perform, Step.perform, hs, Option.map_some, reply, Scene.isClosed_eq hs, wait?_eq, Shared.modify_id]
      cases s.closed with
      | true =>
        refine ⟨true, ?_⟩
        simp only [↓reduceIte, hsame hs]
      | false => exact ⟨c.shown, rfl⟩
    | clone h =>
      refine ⟨c.shown, ?_⟩
      have hclone : c.signals.clone? h = some signals := happly
      rw [perform, Step.perform, hclone]
      rfl
    | fresh =>
      cases happly
      exact ⟨c.shown, rfl⟩
    | closeDisplay =>
      obtain ⟨s, hs, rfl⟩ := Option.map_eq_some_iff.mp happly
      exact ⟨c.shown, rfl⟩

/-- An event that closes no signal leaves the flags alone and adds no token. -/
theorem change_cases (e : Event) :
    (∃ h, e.change = .update h CloseSignal.close ∧ e.closing? = some h) ∨
      (e.closing? = none ∧ ∀ h f, e.change = .update h f →
        ∀ s, (f s).closed = s.closed ∧ ((f s).token = true → s.token = true)) := by
  cases e with
  | resume h inTime =>
    right
    refine ⟨rfl, ?_⟩
    rintro _ _ ⟨⟩ s
    cases inTime with
    | true => exact ⟨rfl, nofun⟩
    | false => exact ⟨rfl, id⟩
  | step st =>
    cases st with
    | close h => exact Or.inl ⟨h, rfl, rfl⟩
    | closeDisplay => exact Or.inl ⟨0, rfl, rfl⟩
    | waitTimeout h =>
      right
      refine ⟨rfl, ?_⟩
      rintro _ _ ⟨⟩ s
      dsimp only
      cases hclosed : s.closed with
      | true =>
        rw [waitTimeout_of_closed hclosed]
        exact ⟨hclosed, id⟩
      | false =>
        rw [waitTimeout_of_open hclosed]
        exact ⟨hclosed, nofun⟩
    | wait | showDisplay =>
      right
      refine ⟨rfl, ?_⟩
      rintro _ _ ⟨⟩ s
      exact ⟨rfl, id⟩
    | clone | fresh => exact Or.inr ⟨rfl, nofun⟩

section Effect

variable (own : ℕ → Prop) [DecidablePred own]

/-- Through handles of one's own an event closes a signal, or it leaves the flag alone and adds no token. -/
theorem effect_cases (e : Event) (s : CloseSignal) :
    (e.change.effect own s = s.close ∧ ∃ h ∈ e.closing?, own h) ∨
      ((e.change.effect own s).closed = s.closed ∧
        ((e.change.effect own s).token = true → s.token = true) ∧ ¬ ∃ h ∈ e.closing?, own h) := by
  rcases e.change_cases with ⟨h, hchange, hclosing⟩ | ⟨hclosing, hkeeps⟩
  · rw [hchange, hclosing, Shared.Change.effect]
    by_cases hown : own h
    · rw [if_pos hown]
      exact Or.inl ⟨rfl, h, rfl, hown⟩
    · rw [if_neg hown]
      refine Or.inr ⟨rfl, id, ?_⟩
      rintro ⟨_, ⟨⟩, hown'⟩
      exact hown hown'
  · right
    have hnone : ¬ ∃ h ∈ e.closing?, own h := by
      rw [hclosing]
      rintro ⟨_, ⟨⟩, -⟩
    cases hchange : e.change with
    | update h f =>
      rw [Shared.Change.effect]
      split
      · exact ⟨(hkeeps h f hchange s).1, (hkeeps h f hchange s).2, hnone⟩
      · exact ⟨rfl, id, hnone⟩
    | clone | fresh => exact ⟨rfl, id, hnone⟩

theorem closed_effect_iff (e : Event) (s : CloseSignal) :
    (e.change.effect own s).closed = true ↔ s.closed = true ∨ ∃ h ∈ e.closing?, own h := by
  rcases e.effect_cases own s with ⟨heffect, hclosing⟩ | ⟨hclosed, -, hnone⟩
  · rw [heffect]
    exact iff_of_true s.closed_close (Or.inr hclosing)
  · rw [hclosed]
    exact (or_iff_left hnone).symm

/-- A token is left by the close that raises the flag, and by nothing else. -/
theorem token_effect (e : Event) (hempty : s.token = false)
    (htoken : (e.change.effect own s).token = true) :
    s.closed = false ∧ (e.change.effect own s).closed = true := by
  rcases e.effect_cases own s with ⟨heffect, -⟩ | ⟨-, hold, -⟩
  · rw [heffect] at htoken ⊢
    refine ⟨?_, s.closed_close⟩
    cases hclosed : s.closed with
    | false => rfl
    | true =>
      rw [close_of_closed hclosed, hempty] at htoken
      cases htoken
  · rw [hold htoken] at hempty
    cases hempty

end Effect

end Event

section Script

variable (own : ℕ → Prop) [DecidablePred own]

/-- A signal is closed after the events if one of them closed it through a handle of one's own. -/
theorem closed_evolve_iff (events : List Event) :
    (Shared.evolve own {} (events.map Event.change)).closed = true ↔
      ∃ h ∈ events.filterMap Event.closing?, own h := by
  induction events using List.reverseRecOn with
  | nil => simp [Shared.evolve]
  | append_singleton events e ih =>
    rw [List.map_append, List.map_singleton, Shared.evolve_snoc, Event.closed_effect_iff, ih,
      List.filterMap_append]
    cases hclosing : e.closing? with
    | none => simp [hclosing]
    | some h => simp [hclosing, or_and_right, exists_or]

theorem closed_of_token_evolve (events : List Event)
    (htoken : (Shared.evolve own {} (events.map Event.change)).token = true) :
    (Shared.evolve own {} (events.map Event.change)).closed = true := by
  induction events using List.reverseRecOn with
  | nil => cases htoken
  | append_singleton events e ih =>
    rw [List.map_append, List.map_singleton, Shared.evolve_snoc] at htoken ⊢
    cases hbefore : (Shared.evolve own {} (events.map Event.change)).token with
    | true => exact (e.closed_effect_iff own _).mpr (Or.inl (ih hbefore))
    | false => exact (e.token_effect own hbefore htoken).2

end Script

/-- Carries out events in turn, and drops their answers. -/
def performAll (c : Scene) (events : List Event) : Option Scene :=
  events.foldlM (fun c e => (e.perform c).map Prod.snd) c

/-- One of the events closes a signal through the family of the handle. -/
def ClosedBy (events : List Event) (k : ℕ) : Prop :=
  ∃ h ∈ events.filterMap Event.closing?, Shared.Family (events.map Event.change) h k

instance (events : List Event) : DecidablePred (ClosedBy events) := fun k =>
  inferInstanceAs (Decidable (∃ h ∈ events.filterMap Event.closing?, Shared.Family (events.map Event.change) h k))

theorem exists_performAll {events : List Event} (husable : Shared.Usable (events.map Event.change)) :
    ∃ c, performAll {} events = some c ∧ Shared.Reflects {} (events.map Event.change) c.signals := by
  induction events using List.reverseRecOn with
  | nil => exact ⟨{}, rfl, Shared.reflects_single _⟩
  | append_singleton events e ih =>
    rw [List.map_append, List.map_singleton] at husable
    obtain ⟨c, hperform, hc⟩ := ih (Shared.usable_snoc_iff.mp husable).1
    obtain ⟨signals, happly, hsignals⟩ := hc.exists_apply husable
    obtain ⟨shown, hnext⟩ := Event.exists_perform happly
    refine ⟨{ signals, shown }, ?_, ?_⟩
    · rw [performAll] at hperform ⊢
      rw [foldlM_snoc, hperform, Option.bind_some, hnext]
      rfl
    · rw [List.map_append, List.map_singleton]
      exact hsignals

theorem isClosed_eq_closedBy {events : List Event} {c : Scene} {k : ℕ}
    (hc : Shared.Reflects {} (events.map Event.change) c.signals)
    (hk : k < Shared.handleCount (events.map Event.change)) :
    c.isClosed k = decide (ClosedBy events k) := by
  rw [Scene.isClosed_eq (hc.shows k hk), Bool.eq_iff_iff, decide_eq_true_iff]
  exact closed_evolve_iff _ events

/-- **Close signals.** A display has a signal with one handle on it, and a script closes signals, waits for them,
clones handles, makes new signals, and closes and shows the display, each event through a handle that is there. A
wait that began on an open signal may end later, with the token or without. The script can be carried out to its
end. A signal is then closed exactly if a close went through a handle of its family, a wait without limit ends on
it exactly if it is closed, and a token is there only if it is closed.

Whatever event comes next can be carried out too. A wait of limited length answers whether the family is closed,
and a wait without limit and the display come back exactly if it is, whoever took the token (`Event.reply`). A
closed signal stays closed. A token comes with the close that raises the flag, so a family gets one at most. What
is done through the handles of another family makes no difference. -/
theorem closed_of_script {events : List Event} (husable : Shared.Usable (events.map Event.change)) :
    let changes := events.map Event.change
    let count := Shared.handleCount changes
    ∃ c, performAll {} events = some c ∧ c.signals.handles.length = count ∧
      (∀ k < count, ∃ s, c.signals.read? k = some s ∧ (s.closed = true ↔ ClosedBy events k) ∧
        ((∃ t, WaitEnds s t) ↔ ClosedBy events k) ∧ (s.token = true → ClosedBy events k)) ∧
      ∀ e : Event, Shared.Usable (changes ++ [e.change]) →
        ∃ next, e.perform c = some (e.reply fun k => decide (ClosedBy events k), next) ∧
          ∀ k < count, ∀ s, c.signals.read? k = some s → ∃ t, next.signals.read? k = some t ∧
            (s.closed = true → t.closed = true) ∧
            (s.token = false → t.token = true → s.closed = false ∧ t.closed = true) ∧
            ((∀ h ∈ e.change.target?, ¬ Shared.Family changes h k) → t = s) := by
  intro changes count
  obtain ⟨c, hperform, hc⟩ := exists_performAll husable
  refine ⟨c, hperform, hc.length, ?_, ?_⟩
  · intro k hk
    have hclosed := closed_evolve_iff (Shared.Family changes · k) events
    refine ⟨_, hc.shows k hk, hclosed, exists_waitEnds_iff.trans hclosed, ?_⟩
    intro htoken
    exact hclosed.mp (closed_of_token_evolve _ events htoken)
  · intro e hnext
    obtain ⟨signals, happly, -⟩ := hc.exists_apply hnext
    obtain ⟨shown, heq⟩ := Event.exists_perform happly
    refine ⟨{ signals, shown }, ?_, ?_⟩
    · rw [heq]
      congr 2
      apply Event.reply_congr
      intro h hh
      exact isClosed_eq_closedBy hc ((Shared.usable_snoc_iff.mp hnext).2 h hh)
    · intro k hk s hs
      have ht := hc.read?_apply hnext happly hk
      rw [hs, Option.map_some] at ht
      refine ⟨_, ht, ?_, ?_, ?_⟩
      · intro hclosed
        exact (e.closed_effect_iff _ s).mpr (Or.inl hclosed)
      · intro hempty htoken
        exact e.token_effect _ hempty htoken
      · intro hother
        exact Shared.Change.effect_of_not_own s hother

/-- A waiter on a clone of a clone takes the only token. Those that come later are told all the same, and the signal
that was made anew is still open. -/
theorem closed_of_script_token_taken :
    let events : List Event := [.step (.clone 0), .step (.clone 1), .step .fresh, .step (.close 1), .resume 2 true]
    let answers (c : Scene) (e : Event) : Option Answer := (e.perform c).map Prod.fst
    Shared.Usable (events.map Event.change) ∧ ∃ c, performAll {} events = some c ∧
      c.signals.read? 0 = some { closed := true, token := false } ∧
      answers c (.step (.waitTimeout 0)) = some (.closed true) ∧
      answers c (.step .showDisplay) = some .shown ∧ answers c (.step (.wait 3)) = some .wouldBlock := by
  intro events answers
  have husable : Shared.Usable (events.map Event.change) := by decide
  obtain ⟨c, hperform, -, -, hnext⟩ := closed_of_script husable
  have hanswer (e : Event) (he : Shared.Usable (events.map Event.change ++ [e.change])) :
      answers c e = some (e.reply fun k => decide (ClosedBy events k)) := by
    obtain ⟨next, hreply, -⟩ := hnext e he
    show (e.perform c).map Prod.fst = _
    rw [hreply, Option.map_some]
  have hscene : performAll {} events =
      some { signals := ⟨[{ closed := true, token := false }, {}], [0, 0, 0, 1]⟩ } := rfl
  have hread : c.signals.read? 0 = some { closed := true, token := false } := by
    rw [← Option.some.inj (hscene.symm.trans hperform)]
    rfl
  refine ⟨husable, c, hperform, hread, ?_, ?_, ?_⟩
  · rw [hanswer _ (by decide)]
    decide
  · rw [hanswer _ (by decide)]
    decide
  · rw [hanswer _ (by decide)]
    decide

end Lockstep.CloseSignal
