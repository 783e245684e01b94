import Lockstep.Proofs.Validation.Progress

namespace Lockstep

namespace Sequence

/-- The active predicate breaks off on the snapshot, in its judgement or when it is asked for its name, or it passes
and the next one breaks off when it is asked for its own. -/
def BreaksOn (s : Sequence) (w : Snapshot) (panic : Panic) : Prop :=
  ∃ p ∈ s.waiting.head?, p.answer w = .error panic ∨
    (∃ v name, p.answer w = .ok (v, name) ∧ v.status = .passed) ∧ s.advanced.activeName = .error panic

theorem evaluate_breaks_iff {s : Sequence} {w : Snapshot} {panic : Panic} :
    s.evaluate w = .error panic ↔ (∀ r, s.last ≠ some (w.tick, r)) ∧ s.BreaksOn w panic := by
  simp only [evaluate_eq_error_iff, attempt_eq_error_iff, exists_and_left]
  apply and_congr_right
  intro
  -- however the step leaves the sequence, it breaks off
  simp only [step_eq_error_iff, BreaksOn]
  constructor
  · rintro ⟨s', p, hp, ⟨hanswer, -⟩ | ⟨hpasses, hname, -⟩⟩
    · exact ⟨p, hp, Or.inl hanswer⟩
    · exact ⟨p, hp, Or.inr ⟨hpasses, hname⟩⟩
  · rintro ⟨p, hp, hanswer | ⟨hpasses, hname⟩⟩
    · exact ⟨s, p, hp, Or.inl ⟨hanswer, rfl⟩⟩
    · exact ⟨s.advanced, p, hp, Or.inr ⟨hpasses, hname, rfl⟩⟩

/-- The first of the sequences that breaks off on the snapshot does so in this way. -/
def FirstBreaks (qs : List Sequence) (w : Snapshot) (panic : Panic) : Prop :=
  ∃ before q after, qs = before ++ q :: after ∧ (∀ s ∈ before, ∀ found, ¬ s.BreaksOn w found) ∧
    q.BreaksOn w panic

theorem firstBreaks_cons_iff {q : Sequence} {qs : List Sequence} {w : Snapshot} {panic : Panic} :
    FirstBreaks (q :: qs) w panic ↔
      q.BreaksOn w panic ∨ ((∀ found, ¬ q.BreaksOn w found) ∧ FirstBreaks qs w panic) := by
  constructor
  · rintro ⟨before, p, after, hqs, hbefore, hp⟩
    cases before with
    | nil =>
      cases hqs
      exact Or.inl hp
    | cons s before =>
      cases hqs
      obtain ⟨hs, hbefore⟩ := List.forall_mem_cons.mp hbefore
      exact Or.inr ⟨hs, before, p, after, rfl, hbefore, hp⟩
  · rintro (hq | ⟨hq, before, p, after, rfl, hbefore, hp⟩)
    · exact ⟨[], q, qs, rfl, fun s hs => (List.not_mem_nil hs).elim, hq⟩
    · exact ⟨q :: before, p, after, rfl, List.forall_mem_cons.mpr ⟨hq, hbefore⟩, hp⟩

end Sequence

namespace SequenceSet

/-- The first sequence of a list that breaks off decides how the evaluation of the list does. -/
theorem evaluateAll_cons_eq_error_iff {w : Snapshot} {q : Sequence} {qs : List Sequence}
    {panic : Panic} :
    evaluateAll w (q :: qs) = .error panic ↔
      q.evaluate w = .error panic ∨
        ((∀ found, q.evaluate w ≠ .error found) ∧ evaluateAll w qs = .error panic) := by
  rw [evaluateAll]
  cases q.evaluate w with
  | error found => simp only [Except.error.injEq, ne_eq, forall_eq', false_and, or_false]
  | ok found =>
    simp only [reduceCtorEq, ne_eq, not_false_eq_true, implies_true, true_and, false_or]
    cases evaluateAll w qs <;> simp only [Except.error.injEq, reduceCtorEq]

/-- Sequences that have not seen the number of the snapshot yet. -/
theorem evaluateAll_eq_error_iff {w : Snapshot} {qs : List Sequence} {panic : Panic}
    (hnew : ∀ q ∈ qs, ∀ r, q.last ≠ some (w.tick, r)) :
    evaluateAll w qs = .error panic ↔ Sequence.FirstBreaks qs w panic := by
  induction qs with
  | nil =>
    constructor
    · intro h
      cases h
    · rintro ⟨before, q, after, hqs, -⟩
      exact absurd hqs.symm (List.append_ne_nil_of_right_ne_nil before (List.cons_ne_nil q after))
  | cons q qs ih =>
    -- on a new number the evaluation of a sequence is the judgement of its active predicate
    obtain ⟨hq, hqs⟩ := List.forall_mem_cons.mp hnew
    have hbreaks (found : Panic) : q.evaluate w = .error found ↔ q.BreaksOn w found := by
      rw [Sequence.evaluate_breaks_iff]
      exact and_iff_right hq
    rw [evaluateAll_cons_eq_error_iff, Sequence.firstBreaks_cons_iff, hbreaks, ih hqs]
    simp only [ne_eq, hbreaks]

theorem evaluateAll_append_eq_error_iff {w : Snapshot} {ps qs : List Sequence} {panic : Panic} :
    evaluateAll w (ps ++ qs) = .error panic ↔
      evaluateAll w ps = .error panic ∨
        ((∀ found, evaluateAll w ps ≠ .error found) ∧ evaluateAll w qs = .error panic) := by
  induction ps with
  | nil =>
    simp only [List.nil_append, evaluateAll, reduceCtorEq, ne_eq, not_false_eq_true, implies_true,
      true_and, false_or]
  | cons p ps ih =>
    rw [List.cons_append, evaluateAll_cons_eq_error_iff, ih]
    simp only [ne_eq, evaluateAll_cons_eq_error_iff, not_or]
    grind

theorem evaluate_eq_error_iff {s : SequenceSet} {w : Snapshot} {panic : Panic} :
    s.evaluate w = .error panic ↔ evaluateAll w s.sequences = .error panic := by
  unfold evaluate
  cases evaluateAll w s.sequences <;> simp only [Except.map, Except.error.injEq, reduceCtorEq]

/-- A set that was fresh before the first snapshots has not seen the number of the next one. -/
theorem last_ne_of_history {s t : SequenceSet} (hs : s.IsFresh) {w : ℕ → Snapshot} {R : ℕ → Report}
    {n : ℕ} (hw : ∀ i, (w (i + 1)).tick = i + 1) (h : s.history (upTo w n) = .ok (upTo R n, t)) :
    ∀ q ∈ t.sequences, ∀ r, q.last ≠ some ((w (n + 1)).tick, r) := by
  rw [hw]
  intro q hq r hlast
  cases n with
  | zero =>
    cases h
    obtain ⟨name, ps, rfl⟩ := hs q hq
    cases hlast
  | succ n =>
    -- the number kept is that of the last snapshot
    obtain ⟨u, -, hu⟩ := along_upTo_succ_iff.mp h
    obtain ⟨p, -, x, -, he⟩ := (mem_of_evaluateAll (evaluate_eq_ok_iff.mp hu).2).2 q hq
    rw [Sequence.last_of_evaluate he, hw] at hlast
    have hnumber : n + 1 = n + 1 + 1 := congrArg Prod.fst (Option.some.inj hlast)
    omega

end SequenceSet

end Lockstep
