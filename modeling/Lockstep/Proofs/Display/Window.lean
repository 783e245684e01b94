import Lockstep.Display.Dashboard
import Lockstep.Proofs.Validation.Independence
import Mathlib.Data.List.DropRight

namespace Lockstep

/-- The sequences of the eventually set that have not passed, as the dashboard counts them. -/
def Frame.unmet (f : Frame) : ℕ := f.eventually.count .pending + f.eventually.count .failed

namespace Report

/-- A sequence that has not passed breaks the eventually rule. -/
theorem count_pending_add_count_failed (R : Report) :
    R.count .pending + R.count .failed = (offenders (R.check .eventually)).length := by
  have hpassed : R.count .passed + (R.offending .eventually).length = R.sequences.length := by
    rw [count, offending, ← List.countP_eq_length_filter]
    have hsplit := List.length_eq_countP_add_countP (fun s : SequenceReport => s.status == .passed)
      (l := R.sequences)
    rw [hsplit]
    congr 2
    funext s
    cases s.status <;> rfl
  rw [offenders_check]
  have hall := R.count_add
  omega

end Report

namespace Dashboard

/-- A count that comes in pushes the oldest one out of a full window. -/
theorem remember_rtake (counts : List ℕ) (unmet : ℕ) :
    remember (counts.rtake historySize) unmet = (counts ++ [unmet]).rtake historySize := by
  have hkept : counts.rtake historySize ++ [unmet] =
      (counts ++ [unmet]).drop (counts.length - historySize) := by
    rw [List.rtake, List.drop_append_of_le_length (Nat.sub_le _ _)]
  have hlength : (counts ++ [unmet]).length = counts.length + 1 := List.length_append
  rw [remember, hkept, List.length_drop, hlength, List.rtake, hlength]
  split
  · rename_i hfull
    rw [List.tail_drop]
    congr 1
    unfold historySize at *
    omega
  · rename_i hroom
    congr 1
    unfold historySize at *
    omega

/-- The last of more frames is shown, or still the one before them if there are none. -/
theorem latest_drain (d : Dashboard) (frames : List Frame) :
    (d.drain frames).latest = frames.getLast?.or d.latest := by
  induction frames generalizing d with
  | nil => rfl
  | cons f frames ih =>
    have hrest : (d.drain (f :: frames)).latest = frames.getLast?.or (some f) := ih (d.take f)
    rw [hrest, List.getLast?_cons]
    cases frames.getLast? <;> rfl

theorem history_drain {d : Dashboard} {counts : List ℕ}
    (h : d.history = counts.rtake historySize) (frames : List Frame) :
    (d.drain frames).history = (counts ++ frames.map Frame.unmet).rtake historySize := by
  -- each frame makes one more count of those that came before, of which the window shows the end
  induction frames generalizing d counts with
  | nil =>
    rw [List.map_nil, List.append_nil]
    exact h
  | cons f frames ih =>
    have hnext : (d.take f).history = (counts ++ [f.unmet]).rtake historySize := by
      rw [← remember_rtake, ← h]
      rfl
    have hrest := ih hnext
    rw [List.append_assoc, List.singleton_append, ← List.map_cons] at hrest
    exact hrest

theorem foldl_drain (d : Dashboard) (batches : List (List Frame)) :
    batches.foldl drain d = d.drain batches.flatten :=
  List.foldl_flatten.symm

/-- **The window of a dashboard.** A dashboard that has shown nothing takes any frames, in batches of any size.
It then shows the last one, and keeps for each of the last hundred, the oldest first, how many sequences of the
eventually set had not passed. It never keeps more than that, after whichever frame. The count of a frame is the
number of sequences that the eventually rule finds at fault. -/
theorem drain_batches (layout : DashboardLayout) (signal : CloseSignal)
    (batches : List (List Frame)) :
    let fresh : Dashboard := { layout, signal }
    let frames := batches.flatten
    (batches.foldl drain fresh).latest = frames.getLast? ∧
      (batches.foldl drain fresh).history = (frames.rtake 100).map Frame.unmet ∧
      (∀ seen : List Frame, (fresh.drain seen).history.length = min seen.length 100) ∧
      ∀ f : Frame, f.unmet = (offenders (f.eventually.check .eventually)).length := by
  intro fresh frames
  have hfresh : fresh.history = [].rtake historySize := (List.rtake_nil historySize).symm
  have hwindow (seen : List Frame) : (fresh.drain seen).history = (seen.rtake 100).map Frame.unmet := by
    rw [history_drain hfresh, List.nil_append, List.rtake, List.rtake, List.length_map, List.map_drop]
    rfl
  refine ⟨?_, ?_, ?_, ?_⟩
  · rw [foldl_drain, latest_drain]
    exact Option.or_none
  · rw [foldl_drain]
    exact hwindow frames
  · intro seen
    rw [hwindow, List.length_map, List.rtake, List.length_drop]
    omega
  · intro f
    exact f.eventually.count_pending_add_count_failed

end Dashboard

end Lockstep
