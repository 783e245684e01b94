import Lockstep.Proofs.Validation.Replies
import Mathlib.Data.List.Chain

namespace Lockstep

/-- The detail as it stands at the end of the text of a report. -/
def SequenceReport.remark (r : SequenceReport) : String :=
  r.detail.elim "" fun detail => s!": {detail}"

theorem SequenceReport.text_of_predicate {r : SequenceReport} {name : String}
    (h : r.predicate = some name) :
    r.text = s!"'{r.sequence}' {r.status.name} at '{name}' ({r.completed + 1}/{r.total})" ++
      r.remark := by
  rw [text, remark, h]
  cases r.detail <;> simp only [Option.elim_none, Option.elim_some, toString, String.append_assoc]

namespace Sequence

theorem cursor_le_size (s : Sequence) : s.cursor ≤ s.size := by
  rw [cursor, size, predicates, List.length_append]
  exact Nat.le_add_right _ _

theorem cursor_eq_size_iff (s : Sequence) : s.cursor = s.size ↔ s.waiting = [] := by
  rw [cursor, size, predicates, List.length_append, ← List.length_eq_zero_iff]
  omega

/-- The active predicate stands where the passed ones end. -/
theorem getElem?_cursor (s : Sequence) : s.predicates[s.cursor]? = s.waiting.head? := by
  rw [predicates, cursor, List.getElem?_append_right le_rfl, Nat.sub_self, List.head?_eq_getElem?]

theorem cursor_of_evaluate {s s' : Sequence} {w : Snapshot} {r : SequenceReport}
    (h : s.evaluate w = .ok (r, s')) : s.cursor ≤ s'.cursor ∧ s'.cursor ≤ s.cursor + 1 := by
  obtain ⟨-, rfl⟩ | ⟨-, t, ht, rfl⟩ := evaluate_cases h
  · exact ⟨le_rfl, Nat.le_succ _⟩
  · obtain ⟨-, rfl, -⟩ | ⟨p, next, v, hw, -, -, rfl, -⟩ | ⟨p, next, v, -, -, -, rfl, -⟩ :=
      step_cases ht
    · exact ⟨le_rfl, Nat.le_succ _⟩
    · -- only here the cursor moves
      have hcursor := cursor_advanced hw
      exact ⟨(Nat.le_succ _).trans hcursor.ge, hcursor.le⟩
    · exact ⟨le_rfl, Nat.le_succ _⟩

/-- Each reply is a report on the sequence as the evaluations have left it, which may have strayed from that. -/
theorem Follows.reports {s t : Sequence} {xs : List Reply} (h : s.Follows xs t)
    (hs : s.KeepsReport) :
    ∀ x ∈ xs, ∃ u, u.Reports x.report ∧ u.predicates = s.predicates ∧
      (x.after = u ∨ u.StraysTo x.after) := by
  induction h with
  | nil =>
    intro x hx
    cases hx
  | @cons s s' t x xs first after _ ih =>
    obtain ⟨hafter, hlast⟩ := keepsReport_of_evaluate hs first
    have hpredicates := predicates_of_evaluate first
    intro y hy
    obtain rfl | hy := List.mem_cons.mp hy
    · exact ⟨s', hafter _ _ hlast, hpredicates, after⟩
    · obtain ⟨u, hreports, heq, hu⟩ := ih hafter y hy
      exact ⟨u, hreports, heq.trans hpredicates, hu⟩

/-- The cursor before the replies, and the counts of their reports. -/
theorem Follows.counts {s t : Sequence} {xs : List Reply} (h : s.Follows xs t) (hs : s.KeepsReport) :
    (s.cursor :: xs.map fun x => x.report.completed).IsChain fun m n => m ≤ n ∧ n ≤ m + 1 := by
  induction h with
  | nil => exact List.IsChain.singleton _
  | @cons s s' t x xs first _ _ ih =>
    obtain ⟨hafter, hlast⟩ := keepsReport_of_evaluate hs first
    have hcompleted : x.report.completed = s'.cursor :=
      congrArg SequenceReport.completed (hafter _ _ hlast).eq_report
    rw [List.map_cons, hcompleted]
    exact List.IsChain.cons_cons (cursor_of_evaluate first) (ih hafter)

namespace Reply

/-- A reply tells how far its sequence has come with the predicates `ps`. -/
structure Tells (x : Reply) (ps : List Predicate) : Prop where
  total : x.report.total = ps.length
  completed_le : x.report.completed ≤ x.report.total
  passed_iff : x.report.status = .passed ↔ x.report.completed = x.report.total
  predicate_iff : x.report.predicate = none ↔ x.report.completed = x.report.total
  isPassed_iff : x.after.isPassed = true ↔ x.report.completed = x.report.total
  /-- Until then the report names the predicate that is next, and its text gives the position of it. -/
  active : x.report.status ≠ .passed →
    ∃ p name position, ps[x.report.completed]? = some p ∧ p.name = .ok name ∧
      x.report.predicate = some name ∧
      position = x.report.completed + 1 ∧ 1 ≤ position ∧ position ≤ x.report.total ∧
      x.report.text =
        s!"'{x.report.sequence}' {x.report.status.name} at '{name}' ({position}/{x.report.total})" ++
          x.report.remark

theorem tells_of_reports {x : Reply} {u : Sequence} (h : u.Reports x.report)
    (hafter : x.after = u ∨ u.StraysTo x.after) : x.Tells u.predicates := by
  obtain ⟨hreport, hactive, hstatus⟩ := h
  have hcompleted : x.report.completed = u.cursor := congrArg SequenceReport.completed hreport
  have htotal : x.report.total = u.size := congrArg SequenceReport.total hreport
  have hwaiting : u.waiting = [] ↔ x.report.completed = x.report.total := by
    rw [hcompleted, htotal, cursor_eq_size_iff]
  -- a sequence that strays has something to wait for before it and after it
  have hsame : x.after.waiting = [] ↔ u.waiting = [] := by
    obtain hsame | hstrays := hafter
    · rw [hsame]
    · obtain ⟨p, q, later, hbefore, hstrayed, -⟩ := hstrays.exists_waiting
      rw [hbefore, hstrayed]
      exact iff_of_false (List.cons_ne_nil q later) (List.cons_ne_nil p _)
  have hpredicate : x.report.predicate = none ↔ u.waiting = [] := by
    cases hnext : u.waiting with
    | nil =>
      rw [activeName_of_nil hnext] at hactive
      exact iff_of_true (Except.ok.inj hactive).symm rfl
    | cons p next =>
      rw [activeName_of_cons hnext] at hactive
      obtain ⟨name, -, hname⟩ := map_eq_ok_iff.mp hactive
      rw [← hname]
      exact iff_of_false (Option.some_ne_none name) (List.cons_ne_nil p next)
  refine ⟨htotal, ?_, hstatus.trans hwaiting, hpredicate.trans hwaiting, ?_, ?_⟩
  · rw [hcompleted, htotal]
    exact u.cursor_le_size
  · rw [isPassed, List.isEmpty_iff, hsame]
    exact hwaiting
  · intro hpassed
    obtain ⟨p, next, hnext⟩ := List.exists_cons_of_ne_nil fun hw => hpassed (hstatus.mpr hw)
    rw [activeName_of_cons hnext] at hactive
    obtain ⟨name, hname, hactive⟩ := map_eq_ok_iff.mp hactive
    have hp : u.predicates[x.report.completed]? = some p := by
      rw [hcompleted, getElem?_cursor, hnext, List.head?_cons]
    obtain ⟨hlt, -⟩ := List.getElem?_eq_some_iff.mp hp
    exact ⟨p, name, _, hp, hname, hactive.symm, rfl, Nat.le_add_left 1 _, htotal ▸ hlt,
      SequenceReport.text_of_predicate hactive.symm⟩

end Reply

/-- What a sequence reports has a text: the position in it fits into its word if the size of the sequence does. -/
theorem Reports.text?_eq {s : Sequence} {r : SequenceReport} (h : s.Reports r) (hsize : s.size < UInt64.size) :
    r.text? = some r.text := by
  rw [SequenceReport.text?, if_pos]
  rw [Bool.or_eq_true, Option.isNone_iff_eq_none, decide_eq_true_iff, or_iff_not_imp_left]
  intro hactive
  have hcursor : s.cursor ≠ s.size := by
    rw [ne_eq, cursor_eq_size_iff]
    intro hwaiting
    have hnone := (activeName_of_nil hwaiting).symm.trans h.activeName_eq
    exact hactive (Except.ok.inj hnone).symm
  have hcompleted : r.completed = s.cursor := congrArg SequenceReport.completed h.eq_report
  have hle := s.cursor_le_size
  omega

variable (name : String) (ps : List Predicate) (ws : List Snapshot)

theorem tells_of_mem_replies {x : Reply} (hx : x ∈ (fresh name ps).replies ws) : x.Tells ps := by
  obtain ⟨t, hfollows, -⟩ := (fresh name ps).exists_follows_replies ws
  obtain ⟨u, hreports, hpredicates, hafter⟩ := hfollows.reports (keepsReport_fresh name ps) x hx
  have htells := Reply.tells_of_reports hreports hafter
  rw [hpredicates] at htells
  exact htells

/-- The counts of the reports begin at zero. -/
theorem counts_of_replies :
    (0 :: ((fresh name ps).replies ws).map fun x => x.report.completed).IsChain
      fun m n => m ≤ n ∧ n ≤ m + 1 := by
  obtain ⟨t, hfollows, -⟩ := (fresh name ps).exists_follows_replies ws
  exact hfollows.counts (keepsReport_fresh name ps)

/-- **A report tells the standing, and no progress is lost.** A fresh sequence is evaluated on a history.
Each report counts the predicates that have passed, and the sequence has passed if these are all. The
counts, from zero on, grow by at most one at a time, and once the sequence has passed it stays so. -/
theorem replies_tell :
    let replies := (fresh name ps).replies ws
    (∀ x ∈ replies, x.Tells ps) ∧
      ((0 :: replies.map fun x => x.report.completed).IsChain fun m n => m ≤ n ∧ n ≤ m + 1) ∧
      replies.Pairwise fun x y => x.report.completed ≤ y.report.completed ∧
        (x.report.status = .passed → y.report.status = .passed) := by
  intro replies
  have htells : ∀ x ∈ replies, x.Tells ps := fun x hx => tells_of_mem_replies name ps ws hx
  have hchain := counts_of_replies name ps ws
  refine ⟨htells, hchain, ?_⟩
  have hsorted : (replies.map fun x => x.report.completed).Pairwise (· ≤ ·) :=
    List.isChain_iff_pairwise.mp (hchain.tail.imp fun _ _ h => h.1)
  rw [List.pairwise_map] at hsorted
  apply hsorted.imp_of_mem
  intro x y hx hy hle
  refine ⟨hle, ?_⟩
  -- all predicates had passed by the first report, and by the second one no fewer have
  intro hpassed
  apply (htells y hy).passed_iff.mpr
  apply le_antisymm (htells y hy).completed_le
  calc y.report.total
      = x.report.total := (htells y hy).total.trans (htells x hx).total.symm
    _ = x.report.completed := ((htells x hx).passed_iff.mp hpassed).symm
    _ ≤ y.report.completed := hle

end Sequence

end Lockstep
