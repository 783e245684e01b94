import Lockstep.Proofs.Validation.History

namespace Lockstep

namespace SequenceSet

variable {ι : Type} {items : List ι}

/-- A set is evaluated as its sequences are. -/
theorem evaluateAll_map {w : Snapshot} {before after : ι → Sequence} {report : ι → SequenceReport}
    (h : ∀ x ∈ items, (before x).evaluate w = .ok (report x, after x)) :
    evaluateAll w (items.map before) = .ok (items.map report, items.map after) := by
  induction items with
  | nil => rfl
  | cons x items ih =>
    obtain ⟨hx, hitems⟩ := List.forall_mem_cons.mp h
    have hrest := ih hitems
    simp only [List.map_cons]
    exact evaluateAll_cons_eq_ok_iff.mpr ⟨_, _, _, _, hx, hrest, rfl, rfl⟩

/-- A set whose sequences are known after each of the first snapshots. -/
theorem history_map {w : ℕ → Snapshot} (after : ℕ → ι → Sequence) (report : ℕ → ι → SequenceReport)
    {n : ℕ} (h : ∀ i < n, ∀ x ∈ items,
      (after i x).evaluate (w (i + 1)) = .ok (report (i + 1) x, after (i + 1) x)) :
    history ⟨items.map (after 0)⟩ (upTo w n) =
      .ok (upTo (fun i => ⟨(w i).tick, items.map (report i)⟩) n, ⟨items.map (after n)⟩) := by
  induction n with
  | zero => rfl
  | succ n ih =>
    have hbefore := ih fun i hi => h i (Nat.lt_succ_of_lt hi)
    have hlast := evaluateAll_map (h n (Nat.lt_succ_self n))
    exact along_upTo_succ_iff.mpr ⟨_, hbefore, evaluate_eq_ok_iff.mpr ⟨rfl, hlast⟩⟩

end SequenceSet

/-- A sequence of one predicate, with its title and the verdicts that it reaches. A pass has no detail. -/
structure Probe where
  name : String
  predicate : Predicate
  title : String
  verdict : Snapshot → Verdict
  answer_eq : ∀ w, predicate.answer w = .ok (verdict w, title)
  plain : ∀ w, (verdict w).status = .passed → verdict w = .passed

namespace Probe

def sequence (c : Probe) : Sequence := .fresh c.name [c.predicate]

/-- The predicate passes on one of the first snapshots. -/
def PassesIn (c : Probe) (w : ℕ → Snapshot) (n : ℕ) : Prop :=
  ∃ v ∈ upTo w n, (c.verdict v).status = .passed

instance (c : Probe) (w : ℕ → Snapshot) (n : ℕ) : Decidable (c.PassesIn w n) :=
  inferInstanceAs (Decidable (∃ v ∈ upTo w n, (c.verdict v).status = .passed))

/-- What the sequence reports on the last of the first snapshots. -/
def report (c : Probe) (w : ℕ → Snapshot) (n : ℕ) : SequenceReport :=
  if c.PassesIn w n then ⟨c.name, .passed, none, 1, 1, none⟩
  else ⟨c.name, (c.verdict (w n)).status, some c.title, 0, 1, (c.verdict (w n)).detail⟩

/-- The sequence after the first snapshots. -/
def after (c : Probe) (w : ℕ → Snapshot) (n : ℕ) : Sequence where
  name := c.name
  passed := if c.PassesIn w n then [c.predicate] else []
  waiting := if c.PassesIn w n then [] else [c.predicate]
  last := if n = 0 then none else some ((w n).tick, c.report w n)

variable {c : Probe} {w : ℕ → Snapshot} {n : ℕ}

theorem not_passesIn_zero : ¬ c.PassesIn w 0 := by
  rintro ⟨v, hv, -⟩
  exact List.not_mem_nil hv

theorem passesIn_succ_iff :
    c.PassesIn w (n + 1) ↔ c.PassesIn w n ∨ (c.verdict (w (n + 1))).status = .passed := by
  simp only [PassesIn, upTo_succ, List.mem_append, List.mem_singleton, or_and_right, exists_or,
    exists_eq_left]

theorem after_zero : c.after w 0 = c.sequence := by
  rw [after, if_neg not_passesIn_zero, if_neg not_passesIn_zero, if_pos rfl]
  rfl

/-- The next snapshot is put to the predicate, unless it has passed. -/
theorem step_after :
    (c.after w n).step (w (n + 1)) =
      (.ok (c.report w (n + 1)), { c.after w (n + 1) with last := (c.after w n).last }) := by
  by_cases hbefore : c.PassesIn w n
  · -- nothing is asked any more
    have hnow : c.PassesIn w (n + 1) := passesIn_succ_iff.mpr (Or.inl hbefore)
    have hwaiting : (c.after w n).waiting = [] := if_pos hbefore
    rw [Sequence.step_of_nil hwaiting]
    simp only [after, report, Sequence.report, if_pos hbefore, if_pos hnow]
    rfl
  · have hwaiting : (c.after w n).waiting = [c.predicate] := if_neg hbefore
    have hanswer := c.answer_eq (w (n + 1))
    by_cases hpasses : (c.verdict (w (n + 1))).status = .passed
    · -- the pass is the last one of the sequence, so it is reported, with nothing more to say
      have hnow : c.PassesIn w (n + 1) := passesIn_succ_iff.mpr (Or.inr hpasses)
      have hverdict := c.plain _ hpasses
      rw [Sequence.step_of_passed hwaiting hanswer hpasses, hverdict]
      simp only [after, report, if_neg hbefore, if_pos hnow]
      rfl
    · have hnow : ¬ c.PassesIn w (n + 1) := by
        rw [passesIn_succ_iff]
        exact not_or.mpr ⟨hbefore, hpasses⟩
      rw [Sequence.step_of_not_passed hwaiting hanswer hpasses]
      simp only [after, report, if_neg hbefore, if_neg hnow]
      rfl

theorem evaluate_after (hnew : n ≠ 0 → (w n).tick ≠ (w (n + 1)).tick) :
    (c.after w n).evaluate (w (n + 1)) = .ok (c.report w (n + 1), c.after w (n + 1)) := by
  rw [Sequence.evaluate_eq_ok_iff]
  obtain ⟨r, hlast, -⟩ | ⟨-, hconsume⟩ := (c.after w n).attempt_cases (w (n + 1))
  · have hn : n ≠ 0 := by
      rintro rfl
      cases hlast
    rw [after, if_neg hn] at hlast
    exact absurd (congrArg Prod.fst (Option.some.inj hlast)) (hnew hn)
  · rw [hconsume, Sequence.consume, step_after]
    rfl

/-- The reports of a set of such sequences on the first snapshots of a history. -/
theorem history_sequences {ι : Type} (probe : ι → Probe) (items : List ι)
    (hnew : ∀ i, 0 < i → i < n → (w i).tick ≠ (w (i + 1)).tick) :
    ∃ t, SequenceSet.history ⟨items.map fun x => (probe x).sequence⟩ (upTo w n) =
      .ok (upTo (fun i => ⟨(w i).tick, items.map fun x => (probe x).report w i⟩) n, t) := by
  have hstep (i : ℕ) (hi : i < n) (x : ι) (_ : x ∈ items) :
      ((probe x).after w i).evaluate (w (i + 1)) =
        .ok ((probe x).report w (i + 1), (probe x).after w (i + 1)) :=
    evaluate_after fun hpos => hnew i (Nat.pos_of_ne_zero hpos) hi
  have hhistory := SequenceSet.history_map (fun i x => (probe x).after w i)
    (fun i x => (probe x).report w i) hstep
  simp only [after_zero] at hhistory
  exact ⟨_, hhistory⟩

end Probe

end Lockstep
