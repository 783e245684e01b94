import Lockstep.Proofs.Validation.Replies
import Lockstep.Validation.Script
import Mathlib.Data.List.SplitBy

namespace Lockstep

section Blocks

variable {α : Type} (world : α → Snapshot) (xs : List α)

variable {world xs}

end Blocks

section Condenses

variable {σ ρ α : Type} {evaluate : σ → Snapshot → Except Panic (ρ × σ)} {world : α → Snapshot}
  {report : α → ρ}

/-- A snapshot with the number of the last one gets the report of the last one, and has no effect. -/
def RepeatsItself (evaluate : σ → Snapshot → Except Panic (ρ × σ)) : Prop :=
  ∀ {s s' : σ} {w v : Snapshot} {r : ρ}, evaluate s w = .ok (r, s') → v.tick = w.tick →
    evaluate s' v = .ok (r, s')

namespace RepeatsItself

theorem along (hrepeats : RepeatsItself evaluate) {s s' t : σ} {w : Snapshot} {r : ρ} {ys : List α}
    (he : evaluate s w = .ok (r, s')) (hys : ∀ y ∈ ys, (world y).tick = w.tick)
    (h : Lockstep.along evaluate s' (ys.map world) = .ok (ys.map report, t)) :
    t = s' ∧ ∀ y ∈ ys, report y = r := by
  induction ys with
  | nil =>
    cases h
    exact ⟨rfl, fun y hy => (List.not_mem_nil hy).elim⟩
  | cons y ys ih =>
    obtain ⟨hy, hys⟩ := List.forall_mem_cons.mp hys
    obtain ⟨r₁, s₁, rs, he₁, ha, hrs⟩ := along_cons_eq_ok_iff.mp h
    -- `y` changes nothing for the snapshots behind it
    obtain ⟨rfl, rfl⟩ := Prod.mk.inj (Except.ok.inj (he₁.symm.trans (hrepeats he hy)))
    obtain ⟨hreport, rfl⟩ := List.cons.inj hrs
    obtain ⟨ht, hrest⟩ := ih hys ha
    exact ⟨ht, List.forall_mem_cons.mpr ⟨hreport, hrest⟩⟩

end RepeatsItself

end Condenses

namespace Sequence

theorem repeatsItself : RepeatsItself evaluate := by
  intro s s' w v r he htick
  apply evaluate_of_last
  rw [htick]
  exact last_of_evaluate he

end Sequence

namespace SequenceSet

theorem evaluateAll_of_evaluateAll {w v : Snapshot} {qs ts : List Sequence}
    {rs : List SequenceReport} (h : evaluateAll w qs = .ok (rs, ts)) (htick : v.tick = w.tick) :
    evaluateAll v ts = .ok (rs, ts) := by
  induction qs generalizing rs ts with
  | nil =>
    cases h
    rfl
  | cons q qs ih =>
    obtain ⟨r, t, rs, ts, he, hrest, rfl, rfl⟩ := evaluateAll_cons_eq_ok_iff.mp h
    exact evaluateAll_cons_eq_ok_iff.mpr
      ⟨r, t, rs, ts, Sequence.repeatsItself he htick, ih hrest, rfl, rfl⟩

theorem repeatsItself : RepeatsItself evaluate := by
  intro s t w v r he htick
  obtain ⟨hr, hall⟩ := evaluate_eq_ok_iff.mp he
  exact evaluate_eq_ok_iff.mpr ⟨hr.trans htick.symm, evaluateAll_of_evaluateAll hall htick⟩

end SequenceSet

/-- A sequence that strays: the second predicate has no name, and the sequence waits for it without a report. -/
example :
    let nameless : Predicate := ⟨.error .other, fun _ => .ok .passed⟩
    let s := Sequence.fresh "route" [.scripted "leaves" [⟨2, 2, .ok .passed⟩], nameless]
    let ws := [Snapshot.empty 1 0.0, Snapshot.empty 2 0.0, Snapshot.empty 3 0.0, Snapshot.empty 1 0.0]
    ((s.replies ws).map fun x => (x.world.tick, x.report.completed)) = [(1, 0), (1, 0)] ∧
      (s.remains ws).cursor = 1 := by
  exact ⟨rfl, rfl⟩

end Lockstep
