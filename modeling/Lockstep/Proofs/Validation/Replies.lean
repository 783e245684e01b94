import Lockstep.Proofs.Validation.History

namespace Lockstep

namespace Sequence

/-- The sequence has come one predicate further without a report on it: the predicate that was active passed, but
the one that is now active breaks off when it is asked for its name. -/
structure StraysTo (s s' : Sequence) : Prop where
  eq_advanced : s' = s.advanced
  nameless : ∃ panic, s'.activeName = .error panic

theorem StraysTo.exists_waiting {s s' : Sequence} (h : s.StraysTo s') :
    ∃ p q later, s.waiting = p :: q :: later ∧ s'.waiting = q :: later ∧ ∃ panic, q.name = .error panic := by
  obtain ⟨rfl, panic, hnameless⟩ := h
  obtain ⟨q, later, hwaiting', hname⟩ := activeName_eq_error_iff.mp hnameless
  cases hwaiting : s.waiting with
  | nil =>
    rw [advanced, hwaiting] at hwaiting'
    cases hwaiting'
  | cons p next =>
    obtain rfl : next = q :: later := (waiting_advanced hwaiting).symm.trans hwaiting'
    exact ⟨p, q, later, rfl, hwaiting', panic, hname⟩

/-- What has been reported is as it was. -/
theorem StraysTo.last_eq {s s' : Sequence} (h : s.StraysTo s') : s'.last = s.last := by
  rw [h.eq_advanced]
  rfl

theorem StraysTo.cursor_eq {s s' : Sequence} (h : s.StraysTo s') : s'.cursor = s.cursor + 1 := by
  obtain ⟨p, q, later, hwaiting, -⟩ := h.exists_waiting
  rw [h.eq_advanced]
  exact cursor_advanced hwaiting

/-- A predicate that breaks off leaves its sequence as it was, unless it does so with its name, and when it has
just become the active one. -/
theorem attempt_of_error {s s' : Sequence} {w : Snapshot} {panic : Panic}
    (h : s.attempt w = (.error panic, s')) : s' = s ∨ s.StraysTo s' := by
  obtain ⟨-, hstep⟩ := attempt_eq_error_iff.mp h
  obtain ⟨p, -, ⟨-, rfl⟩ | ⟨-, hnameless, rfl⟩⟩ := step_eq_error_iff.mp hstep
  · exact Or.inl rfl
  · exact Or.inr ⟨rfl, panic, hnameless⟩

/-- So it does: on a new snapshot the active predicate passes, and the next one has no name to give. -/
theorem attempt_strays {s : Sequence} {w : Snapshot} {panic : Panic} (hnew : ∀ r, s.last ≠ some (w.tick, r))
    {p q : Predicate} {later : List Predicate} (hwaiting : s.waiting = p :: q :: later) {v : Verdict}
    {name : String} (hanswer : p.answer w = .ok (v, name)) (hpassed : v.status = .passed)
    (hname : q.name = .error panic) :
    s.attempt w = (.error panic, s.advanced) ∧ s.StraysTo s.advanced := by
  have hnameless : s.advanced.activeName = .error panic :=
    activeName_eq_error_iff.mpr ⟨q, later, waiting_advanced hwaiting, hname⟩
  have hp : p ∈ s.waiting.head? := by
    rw [hwaiting]
    rfl
  refine ⟨attempt_eq_error_iff.mpr ⟨hnew, ?_⟩, rfl, panic, hnameless⟩
  exact step_eq_error_iff.mpr ⟨p, hp, Or.inr ⟨⟨v, name, hanswer, hpassed⟩, hnameless, rfl⟩⟩

/-- A sequence whose active predicate has no name to give only repeats what it has reported. -/
theorem attempt_of_nameless {s : Sequence} (hs : ∃ panic, s.activeName = .error panic) (w : Snapshot) :
    (∃ panic, s.attempt w = (.error panic, s)) ∨
      ∃ r, s.last = some (w.tick, r) ∧ s.attempt w = (.ok r, s) := by
  obtain ⟨r, hrepeat⟩ | ⟨hnew, -⟩ := s.attempt_cases w
  · exact Or.inr ⟨r, hrepeat⟩
  -- whatever the judgement is, the name is not to be had
  obtain ⟨panic, hnameless⟩ := hs
  obtain ⟨p, next, hwaiting, hname⟩ := activeName_eq_error_iff.mp hnameless
  have hanswer : ∃ found, p.answer w = .error found := by
    cases hjudge : p.judge w with
    | error found => exact ⟨found, Predicate.answer_eq_error_iff.mpr (Or.inl hjudge)⟩
    | ok v => exact ⟨panic, Predicate.answer_eq_error_iff.mpr (Or.inr ⟨⟨v, hjudge⟩, hname⟩)⟩
  obtain ⟨found, hanswer⟩ := hanswer
  exact Or.inl ⟨found, attempt_eq_error_iff.mpr ⟨hnew, step_of_answer_error hwaiting hanswer⟩⟩

/-- A report, the snapshot that it is on, and the sequence right after it. -/
structure Reply where
  world : Snapshot
  report : SequenceReport
  after : Sequence

/-- The reports on a history, on which the sequence is evaluated on one snapshot after the other, also when
a predicate has broken off. -/
def replies (s : Sequence) : List Snapshot → List Reply
  | [] => []
  | w :: ws =>
    match s.attempt w with
    | (.ok r, s') => ⟨w, r, s'⟩ :: s'.replies ws
    | (.error _, s') => s'.replies ws

/-- What such a history leaves of the sequence. -/
def remains (s : Sequence) (ws : List Snapshot) : Sequence :=
  ws.foldl (fun s w => (s.attempt w).2) s

/-- The replies come from evaluations none of which breaks off, one after the other. Between them a sequence may
have strayed. -/
inductive Follows : Sequence → List Reply → Sequence → Prop
  | nil (s : Sequence) : Follows s [] s
  | cons {s s' t : Sequence} {x : Reply} {xs : List Reply} (first : s.evaluate x.world = .ok (x.report, s'))
      (after : x.after = s' ∨ s'.StraysTo x.after) (rest : Follows s' xs t) : Follows s (x :: xs) t

theorem exists_follows (u s : Sequence) (hu : s = u ∨ u.StraysTo s) (ws : List Snapshot) :
    ∃ t, u.Follows (s.replies ws) t ∧ (s.remains ws = t ∨ t.StraysTo (s.remains ws)) := by
  -- `u` is `s` without the step that it may have strayed
  induction ws generalizing u s with
  | nil => exact ⟨u, .nil u, hu⟩
  | cons w ws ih =>
    rw [replies, remains, List.foldl_cons, ← remains]
    obtain rfl | hstrays := hu
    · cases hattempt : s.attempt w with
      | mk answer s' =>
        cases answer with
        | error panic => exact ih s s' (attempt_of_error hattempt)
        | ok r =>
          obtain ⟨t, hfollows, ht⟩ := ih s' s' (Or.inl rfl)
          exact ⟨t, .cons (evaluate_eq_ok_iff.mpr hattempt) (Or.inl rfl) hfollows, ht⟩
    · obtain ⟨panic, hattempt⟩ | ⟨r, hlast, hattempt⟩ := attempt_of_nameless hstrays.nameless w
      · rw [hattempt]
        exact ih u s (Or.inr hstrays)
      · rw [hattempt]
        obtain ⟨t, hfollows, ht⟩ := ih u s (Or.inr hstrays)
        -- what it repeats was reported before it strayed
        have hrepeat : u.evaluate w = .ok (r, u) := evaluate_of_last (hstrays.last_eq.symm.trans hlast)
        exact ⟨t, .cons hrepeat (Or.inr hstrays) hfollows, ht⟩

theorem exists_follows_replies (s : Sequence) (ws : List Snapshot) :
    ∃ t, s.Follows (s.replies ws) t ∧ (s.remains ws = t ∨ t.StraysTo (s.remains ws)) :=
  exists_follows s s (Or.inl rfl) ws

/-- A history of the snapshots that got a report. -/
theorem Follows.history {s t : Sequence} {xs : List Reply} (h : s.Follows xs t) :
    s.history (xs.map Reply.world) = .ok (xs.map Reply.report, t) := by
  induction h with
  | nil => rfl
  | cons first _ _ ih => exact along_cons_eq_ok_iff.mpr ⟨_, _, _, first, ih, rfl⟩

end Sequence

end Lockstep
