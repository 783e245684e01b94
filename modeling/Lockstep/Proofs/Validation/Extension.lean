import Lockstep.Proofs.Validation.History

namespace Lockstep

namespace SequenceSet

theorem sublist_of_evaluateAll {w : Snapshot} {qs qs' ts ts' : List Sequence}
    {rs rs' : List SequenceReport} (hsub : qs.Sublist qs')
    (h : evaluateAll w qs = .ok (rs, ts)) (h' : evaluateAll w qs' = .ok (rs', ts')) :
    rs.Sublist rs' ∧ ts.Sublist ts' := by
  induction hsub generalizing rs rs' ts ts' with
  | slnil =>
    cases h
    cases h'
    exact ⟨.slnil, .slnil⟩
  | cons q hsub ih =>
    -- `q` is new
    obtain ⟨r, t, rs₁, ts₁, -, hrest, rfl, rfl⟩ := evaluateAll_cons_eq_ok_iff.mp h'
    obtain ⟨hrs, hts⟩ := ih h hrest
    exact ⟨hrs.cons r, hts.cons t⟩
  | cons_cons q hsub ih =>
    obtain ⟨r, t, rs₁, ts₁, hq, hrest, rfl, rfl⟩ := evaluateAll_cons_eq_ok_iff.mp h
    obtain ⟨r', t', rs₂, ts₂, hq', hrest', rfl, rfl⟩ := evaluateAll_cons_eq_ok_iff.mp h'
    obtain ⟨rfl, rfl⟩ := Prod.mk.inj (Except.ok.inj (hq.symm.trans hq'))
    obtain ⟨hrs, hts⟩ := ih hrest hrest'
    exact ⟨hrs.cons_cons r, hts.cons_cons t⟩

theorem sublist_of_evaluate {s s' t t' : SequenceSet} {w : Snapshot} {r r' : Report}
    (hsub : s.sequences.Sublist s'.sequences) (h : s.evaluate w = .ok (r, t))
    (h' : s'.evaluate w = .ok (r', t')) :
    r.sequences.Sublist r'.sequences ∧ t.sequences.Sublist t'.sequences :=
  sublist_of_evaluateAll hsub (evaluate_eq_ok_iff.mp h).2 (evaluate_eq_ok_iff.mp h').2

/-- On every snapshot of a history the smaller set gives part of the reports of the larger one. -/
theorem sublist_of_history {s s' t t' : SequenceSet} {w : ℕ → Snapshot} {R R' : ℕ → Report} {n : ℕ}
    (hsub : s.sequences.Sublist s'.sequences) (h : s.history (upTo w n) = .ok (upTo R n, t))
    (h' : s'.history (upTo w n) = .ok (upTo R' n, t')) :
    t.sequences.Sublist t'.sequences ∧
      ∀ i, 0 < i → i ≤ n → (R i).sequences.Sublist (R' i).sequences := by
  induction n generalizing t t' with
  | zero =>
    cases h
    cases h'
    refine ⟨hsub, ?_⟩
    intro i hpos hi
    omega
  | succ n ih =>
    obtain ⟨u, hu, hlast⟩ := along_upTo_succ_iff.mp h
    obtain ⟨u', hu', hlast'⟩ := along_upTo_succ_iff.mp h'
    obtain ⟨hmid, hbefore⟩ := ih hu hu'
    obtain ⟨hreport, hend⟩ := sublist_of_evaluate hmid hlast hlast'
    refine ⟨hend, ?_⟩
    intro i hpos hi
    obtain hlt | rfl := Nat.lt_or_eq_of_le hi
    · exact hbefore i hpos (Nat.le_of_lt_succ hlt)
    · exact hreport

theorem IsTotal.of_sublist {s s' : SequenceSet} (hsub : s.sequences.Sublist s'.sequences)
    (h : s'.IsTotal) : s.IsTotal :=
  fun q hq => h q (hsub.subset hq)

end SequenceSet

end Lockstep
