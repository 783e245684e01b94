import Lockstep.Proofs.Validation.History
import Mathlib.Data.Fin.Tuple.Basic
import Mathlib.Data.List.Chain
import Mathlib.Order.Bounds.Defs

/-!
The progress of a sequence as a matching. A history matches the first predicates of a list when they
pass in order, each on a later snapshot than the one before it. A sequence takes the first snapshot on
which its active predicate passes, and `completed_isGreatest` says that this loses nothing: no choice
of snapshots matches more predicates.
-/

namespace Lockstep

/-- The first `j` predicates pass in order, each on a later snapshot than the one before it. -/
def MatchedInOrder (ps : List Predicate) (ws : List Snapshot) (j : ℕ) : Prop :=
  ∃ i : Fin j → Fin ws.length, StrictMono i ∧ ∀ r : Fin j, ∃ p ∈ ps[r.val]?, p.Passes (ws.get (i r))

theorem matchedInOrder_zero (ps : List Predicate) (ws : List Snapshot) : MatchedInOrder ps ws 0 :=
  ⟨Fin.elim0, fun a => a.elim0, fun r => r.elim0⟩

theorem MatchedInOrder.le_length {ps : List Predicate} {ws : List Snapshot} {j : ℕ}
    (h : MatchedInOrder ps ws j) : j ≤ ps.length := by
  obtain ⟨i, -, hp⟩ := h
  cases j with
  | zero => exact Nat.zero_le _
  | succ j =>
    obtain ⟨p, hp, -⟩ := hp (Fin.last j)
    exact (List.getElem?_eq_some_iff.mp hp).1

theorem MatchedInOrder.eq_zero_of_nil {ps : List Predicate} {j : ℕ}
    (h : MatchedInOrder ps [] j) : j = 0 := by
  obtain ⟨i, -, -⟩ := h
  cases j with
  | zero => rfl
  | succ j => exact (i 0).elim0

/-- Increasing positions none of which is the first one are positions in the rest. -/
theorem exists_succ_eq {j n : ℕ} (i : Fin j → Fin (n + 1)) (hi : StrictMono i)
    (h0 : ∀ r, i r ≠ 0) : ∃ i' : Fin j → Fin n, StrictMono i' ∧ ∀ r, (i' r).succ = i r := by
  refine ⟨fun r => (i r).pred (h0 r), ?_, fun r => Fin.succ_pred _ _⟩
  intro a b hab
  exact Fin.pred_lt_pred_iff.mpr (hi hab)

/-- A snapshot on which the first predicate passes may as well be used for it. -/
theorem matchedInOrder_cons_of_passes {p : Predicate} {w : Snapshot} (hp : p.Passes w)
    (ps : List Predicate) (ws : List Snapshot) (j : ℕ) :
    MatchedInOrder (p :: ps) (w :: ws) (j + 1) ↔ MatchedInOrder ps ws j := by
  constructor
  · rintro ⟨i, hi, hm⟩
    -- all but the first position lie behind it, so they are positions in the rest
    have hne : ∀ r : Fin j, i r.succ ≠ 0 := fun r =>
      Fin.ne_zero_of_lt (hi (Fin.succ_pos r))
    obtain ⟨i', hi', he⟩ := exists_succ_eq (fun r => i r.succ)
      (fun a b hab => hi (Fin.succ_lt_succ_iff.mpr hab)) hne
    refine ⟨i', hi', ?_⟩
    intro r
    obtain ⟨q, hq, hw⟩ := hm r.succ
    refine ⟨q, by simpa only [Fin.val_succ, List.getElem?_cons_succ] using hq, ?_⟩
    rw [← he r] at hw
    exact hw
  · rintro ⟨i, hi, hm⟩
    refine ⟨Fin.cons 0 fun r => (i r).succ, ?_, ?_⟩
    · intro a b hab
      refine Fin.cases ?_ (fun b hab => ?_) b hab
      · intro h
        exact absurd h (Fin.not_lt_zero a)
      · refine Fin.cases (fun _ => ?_) (fun a hab => ?_) a hab
        · simp only [Fin.cons_zero, Fin.cons_succ, Fin.succ_pos]
        · simp only [Fin.cons_succ, Fin.succ_lt_succ_iff] at hab ⊢
          exact hi hab
    · intro r
      refine Fin.cases ?_ (fun r => ?_) r
      · exact ⟨p, rfl, hp⟩
      · obtain ⟨q, hq, hw⟩ := hm r
        exact ⟨q, hq, hw⟩

/-- A snapshot on which the first predicate does not pass is of no use. -/
theorem matchedInOrder_cons_of_not_passes {ps : List Predicate} {w : Snapshot}
    (hp : ∀ p ∈ ps.head?, ¬ p.Passes w) (ws : List Snapshot) (j : ℕ) :
    MatchedInOrder ps (w :: ws) j ↔ MatchedInOrder ps ws j := by
  constructor
  · rintro ⟨i, hi, hm⟩
    have hne : ∀ r : Fin j, i r ≠ 0 := by
      intro r h0
      have hr : r.val = 0 := by
        by_contra hr
        have hlt : i ⟨0, by omega⟩ < i r := hi (Fin.lt_def.mpr (Nat.pos_of_ne_zero hr))
        rw [h0] at hlt
        exact absurd hlt (Fin.not_lt_zero _)
      obtain ⟨p, hq, hw⟩ := hm r
      rw [hr, ← List.head?_eq_getElem?] at hq
      rw [h0] at hw
      exact hp p hq hw
    obtain ⟨i', hi', he⟩ := exists_succ_eq i hi hne
    refine ⟨i', hi', ?_⟩
    intro r
    obtain ⟨q, hq, hw⟩ := hm r
    rw [← he r] at hw
    exact ⟨q, hq, hw⟩
  · rintro ⟨i, hi, hm⟩
    exact ⟨fun r => (i r).succ, fun a b hab => Fin.succ_lt_succ_iff.mpr (hi hab), hm⟩

namespace Sequence

/-- On snapshots with new numbers a sequence moves on by as many predicates as can be matched. -/
theorem cursor_of_history {s t : Sequence} {ws : List Snapshot} {rs : List SequenceReport}
    (h : s.history ws = .ok (rs, t)) (hws : ws.IsChain fun a b => a.tick ≠ b.tick)
    (hnew : ∀ w ∈ ws.head?, ∀ r, s.last ≠ some (w.tick, r)) :
    ∃ j, t.cursor = s.cursor + j ∧ IsGreatest {j | MatchedInOrder s.waiting ws j} j := by
  -- by induction on the history, for any progress that the sequence has before it
  induction ws generalizing s rs with
  | nil =>
    cases h
    refine ⟨0, rfl, matchedInOrder_zero _ _, ?_⟩
    intro j hj
    exact hj.eq_zero_of_nil.le
  | cons w ws ih =>
    obtain ⟨r, s', rs', he, ha, rfl⟩ := along_cons_eq_ok_iff.mp h
    -- the number of `w` is new, so no report is repeated
    obtain ⟨hl, -⟩ | ⟨-, u, hu, rfl⟩ := evaluate_cases he
    · exact absurd hl (hnew w rfl r)
    -- the number of the next snapshot is new in turn, since the one kept is that of `w`
    have hnew' : ∀ v ∈ ws.head?, ∀ r', some (w.tick, r) ≠ some (v.tick, r') := by
      intro v hv r' heq
      cases ws with
      | nil => cases hv
      | cons v' ws =>
        cases hv
        rw [Option.some.injEq, Prod.mk.injEq] at heq
        exact (List.isChain_cons_cons.mp hws).1 heq.1
    obtain ⟨j, hj, hmem, hmax⟩ := ih ha hws.tail hnew'
    -- in two of the three cases nothing passes on `w`, which is then of no use to a matching either
    have hstays (hp : ∀ p ∈ s.waiting.head?, ¬ p.Passes w) (hsame : u = s) :
        ∃ j, t.cursor = s.cursor + j ∧
          IsGreatest {j | MatchedInOrder s.waiting (w :: ws) j} j := by
      subst hsame
      refine ⟨j, hj, ?_⟩
      simp only [matchedInOrder_cons_of_not_passes hp]
      exact ⟨hmem, hmax⟩
    obtain ⟨hw, hsame, -⟩ | ⟨p, next, v, hw, hv, hpass, rfl, -⟩ |
      ⟨p, next, v, hw, hv, hpass, hsame, -⟩ := step_cases hu
    · exact hstays (by simp only [hw, List.head?_nil, Option.mem_def, reduceCtorEq, false_imp_iff,
        implies_true]) hsame
    -- in the third one the active predicate is matched to `w`, and all others to later snapshots
    · have hp : p.Passes w := ⟨v, hv, hpass⟩
      refine ⟨j + 1, ?_, ?_⟩
      · have hcursor := cursor_advanced hw
        change t.cursor = s.advanced.cursor + j at hj
        omega
      · rw [hw]
        rw [waiting_advanced hw] at hmem hmax
        refine ⟨(matchedInOrder_cons_of_passes hp next ws j).mpr hmem, ?_⟩
        intro k hk
        cases k with
        | zero => exact Nat.zero_le _
        | succ k =>
          exact Nat.succ_le_succ (hmax ((matchedInOrder_cons_of_passes hp next ws k).mp hk))
    · refine hstays ?_ hsame
      intro q hq hq'
      rw [hw] at hq
      cases hq
      obtain ⟨v', hv', hpass'⟩ := hq'
      rw [hv] at hv'
      cases hv'
      exact hpass hpass'

/-- **In-order matching.** On a history in which neighbouring snapshots have different numbers, a
fresh sequence has completed as many of its predicates as any choice of later and later snapshots can
match, and it has passed exactly when they all can be. The last report says the same. -/
theorem completed_isGreatest (name : String) {ps : List Predicate} (hps : ∀ p ∈ ps, p.IsTotal)
    {ws : List Snapshot} (hws : ws.IsChain fun a b => a.tick ≠ b.tick) :
    ∃ rs t, (fresh name ps).history ws = .ok (rs, t) ∧
      IsGreatest {j | j ≤ ps.length ∧ MatchedInOrder ps ws j} t.cursor ∧
      (t.isPassed = true ↔ MatchedInOrder ps ws ps.length) ∧
      ∀ r ∈ rs.getLast?, r.completed = t.cursor ∧
        (r.status = .passed ↔ MatchedInOrder ps ws ps.length) := by
  obtain ⟨rs, t, h⟩ := history_of_isTotal (s := fresh name ps) hps ws
  obtain ⟨j, hj, hmem, hmax⟩ := cursor_of_history h hws (fun _ _ _ h => nomatch h)
  have hcursor : t.cursor = j := by simpa only [cursor, fresh, List.length_nil, Nat.zero_add] using hj
  -- nothing waits exactly if the progress, which is the greatest, is the whole list
  have hpreds : t.passed ++ t.waiting = ps := predicates_of_history h
  have hpassed : t.waiting = [] ↔ MatchedInOrder ps ws ps.length := by
    have hlen : t.cursor + t.waiting.length = ps.length := by
      rw [← hpreds, List.length_append, cursor]
    rw [← List.length_eq_zero_iff]
    constructor
    · intro hz
      have hall : ps.length = j := by omega
      rw [hall]
      exact hmem
    · intro hall
      have hle : ps.length ≤ j := hmax hall
      omega
  refine ⟨rs, t, h, ⟨⟨?_, ?_⟩, ?_⟩, ?_, ?_⟩
  · rw [hcursor]
    exact hmem.le_length
  · rw [hcursor]
    exact hmem
  · rintro k ⟨-, hk⟩
    rw [hcursor]
    exact hmax hk
  · rw [isPassed, List.isEmpty_iff, hpassed]
  · intro r hr
    obtain ⟨hform, -, hstatus⟩ := reports_of_history (keepsReport_fresh name ps) h r hr
    exact ⟨congrArg SequenceReport.completed hform, hstatus.trans hpassed⟩

/-- The second predicate fails in between, and the sequence passes all the same. -/
theorem completed_isGreatest_past_failure :
    let ps : List Predicate :=
      [.total "at two" fun w => if w.tick = 2 then .passed else .pending,
        .total "at five" fun w => if w.tick = 5 then .passed else .failed "not yet"]
    let ws : List Snapshot := [.empty 2 0.0, .empty 4 0.0, .empty 5 0.0]
    (∀ p ∈ ps, p.IsTotal) ∧ (ws.IsChain fun a b => a.tick ≠ b.tick) ∧
      ∃ rs t, (fresh "two then five" ps).history ws = .ok (rs, t) ∧
        IsGreatest {j | j ≤ ps.length ∧ MatchedInOrder ps ws j} t.cursor ∧
        (t.isPassed = true ↔ MatchedInOrder ps ws ps.length) ∧
        ∀ r ∈ rs.getLast?, r.completed = t.cursor ∧
          (r.status = .passed ↔ MatchedInOrder ps ws ps.length) := by
  intro ps ws
  have hps : ∀ p ∈ ps, p.IsTotal := by
    simp only [ps, List.forall_mem_cons, List.not_mem_nil, false_imp_iff, implies_true, and_true]
    exact ⟨Predicate.isTotal_total _ _, Predicate.isTotal_total _ _⟩
  have hws : ws.IsChain fun a b => a.tick ≠ b.tick := by
    simp only [ws, List.isChain_cons_cons, List.IsChain.singleton, Snapshot.empty, and_true]
    decide
  exact ⟨hps, hws, completed_isGreatest "two then five" hps hws⟩

end Sequence

end Lockstep
