import Lockstep.Proofs.Validation.History

namespace Lockstep

namespace Sequence

end Sequence

namespace SequenceSet

/-- The sequences of a set before and after an evaluation, and their reports. -/
theorem mem_of_evaluateAll {w : Snapshot} {qs ts : List Sequence} {rs : List SequenceReport}
    (h : evaluateAll w qs = .ok (rs, ts)) :
    (∀ r ∈ rs, ∃ q ∈ qs, ∃ t ∈ ts, q.evaluate w = .ok (r, t)) ∧
    (∀ t ∈ ts, ∃ q ∈ qs, ∃ r ∈ rs, q.evaluate w = .ok (r, t)) := by
  induction qs generalizing rs ts with
  | nil =>
    cases h
    constructor <;> (intro x hx; cases hx)
  | cons q qs ih =>
    obtain ⟨r, t, rs', ts', hq, hqs, rfl, rfl⟩ := evaluateAll_cons_eq_ok_iff.mp h
    obtain ⟨hrs, hts⟩ := ih hqs
    constructor
    · intro x hx
      obtain rfl | hx := List.mem_cons.mp hx
      · exact ⟨q, List.mem_cons_self, t, List.mem_cons_self, hq⟩
      · obtain ⟨p, hp, u, hu, he⟩ := hrs x hx
        exact ⟨p, List.mem_cons_of_mem q hp, u, List.mem_cons_of_mem t hu, he⟩
    · intro u hu
      obtain rfl | hu := List.mem_cons.mp hu
      · exact ⟨q, List.mem_cons_self, r, List.mem_cons_self, hq⟩
      · obtain ⟨p, hp, x, hx, he⟩ := hts u hu
        exact ⟨p, List.mem_cons_of_mem q hp, x, List.mem_cons_of_mem r hx, he⟩

/-- The reports that the sequences keep for a repeated snapshot describe their progress. -/
def KeepsReports (s : SequenceSet) : Prop := ∀ q ∈ s.sequences, q.KeepsReport

/-- Nothing has been evaluated on the sequences of the set yet. -/
def IsFresh (s : SequenceSet) : Prop := ∀ q ∈ s.sequences, ∃ name ps, q = .fresh name ps

/-- No sequence of the set waits for anything. -/
def Met (s : SequenceSet) : Prop := ∀ q ∈ s.sequences, q.waiting = []

end SequenceSet

end Lockstep
