import Lockstep.Proofs.Run.Panel
import Mathlib.Data.List.FinRange
import Mathlib.Data.List.Forall2

namespace Lockstep

section Arranges

variable {α : Type} {n : ℕ} {σ : Equiv.Perm (Fin n)} {xs ys : List α}

/-- The members of a list in another order, in which the one from `σ i` stands at `i`. -/
structure Arranges (σ : Equiv.Perm (Fin n)) (xs ys : List α) : Prop where
  length_left : xs.length = n
  length_right : ys.length = n
  getElem? : ∀ i : Fin n, ys[(i : ℕ)]? = xs[(σ i : ℕ)]?

theorem Arranges.perm (h : Arranges σ xs ys) : ys.Perm xs := by
  obtain ⟨rfl, hlength, hget⟩ := h
  have hys : ys = List.ofFn (xs.get ∘ σ) := by
    apply List.ext_getElem?
    intro i
    by_cases hi : i < xs.length
    · rw [hget ⟨i, hi⟩, List.getElem?_ofFn, dif_pos hi]
      exact List.getElem?_eq_getElem (σ ⟨i, hi⟩).isLt
    · rw [List.getElem?_ofFn, dif_neg hi]
      exact List.getElem?_eq_none (hlength.trans_le (Nat.le_of_not_lt hi))
  calc ys
      = List.ofFn (xs.get ∘ σ) := hys
    List.Perm _ (List.ofFn xs.get) := Equiv.Perm.ofFn_comp_perm σ xs.get
    _ = xs := List.ofFn_get xs

end Arranges

namespace SequenceSet

/-- The set with its sequences in another order. -/
def rearranged (s : SequenceSet) (σ : Equiv.Perm (Fin s.size)) : SequenceSet :=
  ⟨List.ofFn fun i => s.sequences.get (σ i)⟩

theorem arranges_rearranged (s : SequenceSet) (σ : Equiv.Perm (Fin s.size)) :
    Arranges σ s.sequences (s.rearranged σ).sequences := by
  refine ⟨rfl, List.length_ofFn, ?_⟩
  intro i
  rw [rearranged, List.getElem?_ofFn, dif_pos i.isLt]
  exact (List.getElem?_eq_getElem (σ i).isLt).symm

/-- Each sequence of a set gives the reports that it gives alone. -/
theorem getElem?_of_history {s t : SequenceSet} {ws : List Snapshot} {Rs : List Report}
    (h : s.history ws = .ok (Rs, t)) {i : ℕ} {q : Sequence} (hq : s.sequences[i]? = some q) :
    ∃ rs u, q.history ws = .ok (rs, u) ∧ (Rs.map fun R => R.sequences[i]?) = rs.map some ∧
      t.sequences[i]? = some u := by
  induction ws generalizing s q Rs with
  | nil =>
    cases h
    exact ⟨[], q, rfl, rfl, hq⟩
  | cons w ws ih =>
    obtain ⟨R, s', Rs, he, hrest, rfl⟩ := along_cons_eq_ok_iff.mp h
    obtain ⟨r, q', hfirst, hr, hq'⟩ := getElem?_of_evaluateAll (evaluate_eq_ok_iff.mp he).2 hq
    obtain ⟨rs, u, ha, hrs, hu⟩ := ih hrest hq'
    refine ⟨r :: rs, u, along_cons_eq_ok_iff.mpr ⟨r, q', rs, hfirst, ha, rfl⟩, ?_, hu⟩
    rw [List.map_cons, List.map_cons, hr, hrs]

variable {n : ℕ} {σ : Equiv.Perm (Fin n)}

/-- Two sets with the same sequences, each in its own order, on a snapshot. -/
theorem arranges_of_evaluate {s s' t t' : SequenceSet} {w : Snapshot} {R R' : Report}
    (hs : Arranges σ s.sequences s'.sequences) (h : s.evaluate w = .ok (R, t))
    (h' : s'.evaluate w = .ok (R', t')) :
    R'.tick = R.tick ∧ Arranges σ R.sequences R'.sequences ∧
      Arranges σ t.sequences t'.sequences := by
  obtain ⟨htick, hall⟩ := evaluate_eq_ok_iff.mp h
  obtain ⟨htick', hall'⟩ := evaluate_eq_ok_iff.mp h'
  obtain ⟨hreports, hafter⟩ := lengths_of_evaluateAll hall
  obtain ⟨hreports', hafter'⟩ := lengths_of_evaluateAll hall'
  -- the sequence at `i` of the one set is the sequence at `σ i` of the other
  have hmember (i : Fin n) : R'.sequences[(i : ℕ)]? = R.sequences[(σ i : ℕ)]? ∧
      t'.sequences[(i : ℕ)]? = t.sequences[(σ i : ℕ)]? := by
    have hlt : (σ i : ℕ) < s.sequences.length := hs.length_left.symm ▸ (σ i).isLt
    have hq : s.sequences[(σ i : ℕ)]? = some s.sequences[(σ i : ℕ)] :=
      List.getElem?_eq_getElem hlt
    obtain ⟨r, u, he, hr, hu⟩ := getElem?_of_evaluateAll hall hq
    obtain ⟨r', u', he', hr', hu'⟩ := getElem?_of_evaluateAll hall' ((hs.getElem? i).trans hq)
    cases he.symm.trans he'
    exact ⟨hr'.trans hr.symm, hu'.trans hu.symm⟩
  refine ⟨htick'.trans htick.symm, ?_, ?_⟩
  · exact ⟨hreports.trans hs.length_left, hreports'.trans hs.length_right, fun i => (hmember i).1⟩
  · exact ⟨hafter.trans hs.length_left, hafter'.trans hs.length_right, fun i => (hmember i).2⟩

theorem arranges_of_history {s s' t t' : SequenceSet} {ws : List Snapshot} {Rs Rs' : List Report}
    (hs : Arranges σ s.sequences s'.sequences) (h : s.history ws = .ok (Rs, t))
    (h' : s'.history ws = .ok (Rs', t')) :
    List.Forall₂ (fun R R' => R'.tick = R.tick ∧ Arranges σ R.sequences R'.sequences) Rs Rs' := by
  induction ws generalizing s s' Rs Rs' with
  | nil =>
    cases h
    cases h'
    exact List.Forall₂.nil
  | cons w ws ih =>
    obtain ⟨R, u, Rs, he, hrest, rfl⟩ := along_cons_eq_ok_iff.mp h
    obtain ⟨R', u', Rs', he', hrest', rfl⟩ := along_cons_eq_ok_iff.mp h'
    obtain ⟨htick, hreports, hu⟩ := arranges_of_evaluate hs he he'
    exact List.Forall₂.cons ⟨htick, hreports⟩ (ih hu hrest hrest')

end SequenceSet

/-- The sequences that a check finds to break its rule. -/
def offenders : Except Failure Unit → List SequenceReport
  | .ok () => []
  | .error failure => failure.sequences

namespace Report

theorem offenders_check (R : Report) (rule : Rule) : offenders (R.check rule) = R.offending rule := by
  by_cases h : R.offending rule = []
  · rw [check_of_offending_nil h, h, offenders]
  · rw [check_of_offending_ne_nil h, offenders]

/-- The counts of a report on `n` sequences and its checks agree. -/
structure Agrees (R : Report) (n : ℕ) : Prop where
  counts : R.count .pending + R.count .passed + R.count .failed = n
  always_iff : R.check .always = .ok () ↔ R.count .failed = 0
  eventually_iff : R.check .eventually = .ok () ↔ R.count .passed = n
  offenders_always : offenders (R.check .always) = R.sequences.filter (·.status = .failed)
  offenders_eventually : offenders (R.check .eventually) = R.sequences.filter (·.status ≠ .passed)
  in_order : (offenders (R.check .always)).Sublist (offenders (R.check .eventually)) ∧
    (offenders (R.check .eventually)).Sublist R.sequences

theorem count_add (R : Report) :
    R.count .pending + R.count .passed + R.count .failed = R.sequences.length := by
  rw [count, count, count]
  induction R.sequences with
  | nil => rfl
  | cons r rs ih =>
    rw [List.countP_cons, List.countP_cons, List.countP_cons, List.length_cons, ← ih]
    cases r.status <;> simp only [beq_iff_eq, reduceCtorEq, ↓reduceIte] <;> omega

theorem check_always_iff (R : Report) : R.check .always = .ok () ↔ R.count .failed = 0 := by
  rw [check_eq_ok_iff, count, List.countP_eq_zero]
  simp only [Rule.broken, Bool.not_eq_true]

theorem check_eventually_iff (R : Report) :
    R.check .eventually = .ok () ↔ R.count .passed = R.sequences.length := by
  rw [check_eq_ok_iff, count, List.countP_eq_length]
  simp only [Rule.broken, bne_eq_false_iff_eq, beq_iff_eq]

theorem agrees (R : Report) : R.Agrees R.sequences.length := by
  refine ⟨R.count_add, R.check_always_iff, R.check_eventually_iff, ?_, ?_, ?_, ?_⟩
  · rw [offenders_check, offending_always]
  · rw [offenders_check, offending_eventually]
  · rw [offenders_check, offenders_check]
    -- a failed sequence has not passed
    apply List.monotone_filter_right
    intro r hr
    rw [eq_of_beq hr]
    rfl
  · rw [offenders_check]
    exact List.filter_sublist

/-- The second report is the first one with its sequences in another order. -/
structure Rearranges {n : ℕ} (σ : Equiv.Perm (Fin n)) (R R' : Report) : Prop where
  tick : R'.tick = R.tick
  sequences : Arranges σ R.sequences R'.sequences
  agrees : R.Agrees n ∧ R'.Agrees n
  count : ∀ status, R'.count status = R.count status
  check : ∀ rule, R'.check rule = .ok () ↔ R.check rule = .ok ()
  offenders : ∀ rule, (offenders (R'.check rule)).Perm (offenders (R.check rule))

theorem rearranges {n : ℕ} {σ : Equiv.Perm (Fin n)} {R R' : Report} (htick : R'.tick = R.tick)
    (h : Arranges σ R.sequences R'.sequences) : Rearranges σ R R' := by
  refine ⟨htick, h, ⟨h.length_left ▸ R.agrees, h.length_right ▸ R'.agrees⟩, ?_, ?_, ?_⟩
  · intro status
    exact h.perm.countP_eq _
  · intro rule
    rw [check_eq_ok_iff, check_eq_ok_iff]
    exact forall_congr' fun r => imp_congr_left h.perm.mem_iff
  · intro rule
    rw [offenders_check, offenders_check]
    exact h.perm.filter _

end Report

/-- **Sets are unordered.** A set whose predicates never break off is evaluated on a history, in any order of
its sequences. Each sequence gives the reports that it gives alone, so the reports of the set are those of the
other order, rearranged in the same way. All of them agree on what they count and on what the checks find, and
the checks name the same sequences, in the order of the set. -/
theorem history_rearranged {s : SequenceSet} (hs : s.IsTotal) (σ : Equiv.Perm (Fin s.size))
    (ws : List Snapshot) :
    ∃ Rs t Rs' t', s.history ws = .ok (Rs, t) ∧ (s.rearranged σ).history ws = .ok (Rs', t') ∧
      (∀ (i : ℕ) (q : Sequence), s.sequences[i]? = some q → ∃ rs u, q.history ws = .ok (rs, u) ∧
        (Rs.map fun R => R.sequences[i]?) = rs.map some ∧ t.sequences[i]? = some u) ∧
      List.Forall₂ (Report.Rearranges σ) Rs Rs' := by
  have harranges := s.arranges_rearranged σ
  have hs' : (s.rearranged σ).IsTotal := fun q hq => hs q (harranges.perm.mem_iff.mp hq)
  obtain ⟨Rs, t, h, -⟩ := SequenceSet.history_of_isTotal hs ws
  obtain ⟨Rs', t', h', -⟩ := SequenceSet.history_of_isTotal hs' ws
  have hreports := SequenceSet.arranges_of_history harranges h h'
  refine ⟨Rs, t, Rs', t', h, h', ?_, ?_⟩
  · intro i q hq
    exact SequenceSet.getElem?_of_history h hq
  · apply hreports.imp
    intro R R' hR
    exact Report.rearranges hR.1 hR.2

/-- A guard that fails and a goal that is met on the second snapshot, in the other order. -/
theorem history_rearranged_of_two :
    let limit := Sequence.fresh "guard" [.total "early" fun w =>
      if w.tick < 2 then .pending else .failed "late"]
    let goal := Sequence.fresh "goal" [.total "second" fun w =>
      if w.tick = 2 then .passed else .pending]
    let s : SequenceSet := ⟨[limit, goal]⟩
    let σ : Equiv.Perm (Fin s.size) := Equiv.swap ⟨0, Nat.succ_pos 1⟩ ⟨1, Nat.lt_succ_self 1⟩
    let ws := [Snapshot.empty 1 0.0, Snapshot.empty 2 0.0]
    s.IsTotal ∧ s.rearranged σ = ⟨[goal, limit]⟩ ∧
      ∃ Rs t Rs' t', s.history ws = .ok (Rs, t) ∧ (s.rearranged σ).history ws = .ok (Rs', t') ∧
        List.Forall₂ (Report.Rearranges σ) Rs Rs' := by
  intro limit goal s σ ws
  have htotal : s.IsTotal := by
    intro q hq
    obtain rfl | rfl := List.mem_pair.mp hq
    · exact List.forall_mem_singleton.mpr (Predicate.isTotal_total _ _)
    · exact List.forall_mem_singleton.mpr (Predicate.isTotal_total _ _)
  obtain ⟨Rs, t, Rs', t', h, h', -, hrearranges⟩ := history_rearranged htotal σ ws
  exact ⟨htotal, rfl, Rs, t, Rs', t', h, h', hrearranges⟩

end Lockstep
