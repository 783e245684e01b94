import Lockstep.Field.Server
import Lockstep.Proofs.Run.Delivery
import Lockstep.Proofs.Validation.History

namespace Lockstep

namespace FaultPlan

/-- The plan lets a server answer this many ticks. -/
def Allows (p : FaultPlan) (n : ℕ) : Prop := ∀ i < n, p.drops i = false

theorem allows_none (n : ℕ) : (⟨none⟩ : FaultPlan).Allows n := fun _ _ => rfl

theorem allows_some_iff {limit n : ℕ} : (⟨some limit⟩ : FaultPlan).Allows n ↔ n ≤ limit := by
  unfold Allows drops
  simp only [decide_eq_false_iff_not, not_le]
  constructor
  · intro h
    by_contra hlt
    exact absurd (h limit (by omega)) (lt_irrefl limit)
  · intro h i hi
    omega

end FaultPlan

namespace FieldServer

/-- The snapshot with which a server answers a tick that does not stop it, and the server afterwards. -/
def serve (s : FieldServer) (tick : TickCommand) : Snapshot × FieldServer :=
  let (world, field) := (s.field.step tick.seconds).snapshot (s.served + 1)
  (world, { s with field, served := s.served + 1 })

theorem receive_of_drops {s : FieldServer} (h : s.faults.drops s.served = true) (tick : TickCommand) :
    s.receive tick = (none, { s with stopped := true }) := by
  rw [receive, if_pos h]

theorem receive_of_not_drops {s : FieldServer} (h : s.faults.drops s.served = false)
    (tick : TickCommand) : s.receive tick = (some (s.serve tick).1, (s.serve tick).2) := by
  rw [receive, if_neg (by rw [h]; exact Bool.false_ne_true)]
  rfl

/-- The server after it has answered this many ticks. -/
def afterTicks (s : FieldServer) (tick : TickCommand) : ℕ → FieldServer
  | 0 => s
  | n + 1 => ((s.afterTicks tick n).serve tick).2

/-- The snapshot that answers a tick, where ticks are counted from 1. -/
def answer (s : FieldServer) (tick : TickCommand) (i : ℕ) : Snapshot :=
  ((s.afterTicks tick (i - 1)).serve tick).1

section AfterTicks

variable (s : FieldServer) (tick : TickCommand) (n : ℕ)

theorem served_afterTicks : (s.afterTicks tick n).served = s.served + n := by
  induction n with
  | zero => rfl
  | succ n ih =>
    show (s.afterTicks tick n).served + 1 = s.served + (n + 1)
    rw [ih, Nat.add_assoc]

theorem faults_afterTicks : (s.afterTicks tick n).faults = s.faults := by
  induction n with
  | zero => rfl
  | succ n ih => exact ih

theorem stopped_afterTicks : (s.afterTicks tick n).stopped = s.stopped := by
  induction n with
  | zero => rfl
  | succ n ih => exact ih

theorem tick_answer : (s.answer tick (n + 1)).tick = s.served + n + 1 := by
  show (s.afterTicks tick n).served + 1 = s.served + n + 1
  rw [served_afterTicks]

/-- The fault plan has no effect on the server while it answers. -/
theorem afterTicks_with_faults (p : FaultPlan) :
    { s with faults := p }.afterTicks tick n = { s.afterTicks tick n with faults := p } := by
  induction n with
  | zero => rfl
  | succ n ih =>
    rw [afterTicks, ih]
    rfl

theorem answer_with_faults (p : FaultPlan) (i : ℕ) :
    { s with faults := p }.answer tick i = s.answer tick i := by
  rw [answer, afterTicks_with_faults]
  rfl

end AfterTicks

theorem publish_of_drops {s : FieldServer} (hs : s.stopped = false)
    (h : s.faults.drops s.served = true) (tick : TickCommand) :
    link.publish tick ⟨s, []⟩ = (.ok (), ⟨{ s with stopped := true }, []⟩) := by
  simp only [link, hs, Bool.false_eq_true, ↓reduceIte, receive_of_drops h]

theorem publish_of_not_drops {s : FieldServer} (hs : s.stopped = false)
    (h : s.faults.drops s.served = false) (tick : TickCommand) :
    link.publish tick ⟨s, []⟩ = (.ok (), ⟨(s.serve tick).2, [(s.serve tick).1]⟩) := by
  simp only [link, hs, Bool.false_eq_true, ↓reduceIte, receive_of_not_drops h, List.nil_append]

/-- A server answers every tick that its fault plan lets it answer. -/
theorem serves {s : FieldServer} (hs : s.stopped = false) (tick : TickCommand) {n : ℕ}
    (hn : s.faults.Allows (s.served + n)) :
    link.Serves tick ⟨s, []⟩ (upTo (s.answer tick) n) ⟨s.afterTicks tick n, []⟩ := by
  induction n with
  | zero => exact .nil _
  | succ n ih =>
    rw [upTo_succ]
    -- the last tick comes to a server that has answered all others and has not stopped
    have hbefore := ih (fun i hi => hn i (Nat.lt_succ_of_lt hi))
    have hdrops : (s.afterTicks tick n).faults.drops (s.afterTicks tick n).served = false := by
      rw [faults_afterTicks, served_afterTicks]
      exact hn _ (by omega)
    have hpublish := publish_of_not_drops ((stopped_afterTicks s tick n).trans hs) hdrops tick
    exact hbefore.append (.cons hpublish rfl (.nil _))

/-- A driver on the server of a field is delivered the answers of a server without faults, as far as
the fault plan lets them come. -/
theorem driver_delivers (field : Field) {faults : FaultPlan} (tick : Span) {n : ℕ}
    (hn : faults.Allows n) :
    ∃ d, (driver field faults).Delivers tick (upTo (answer { field } (.ofSpan tick)) n) d ∧
      d.state = ⟨{ afterTicks { field } (.ofSpan tick) n with faults }, []⟩ := by
  have hserves := serves (s := { field, faults }) rfl (.ofSpan tick) (n := n)
    (by rw [Nat.zero_add]; exact hn)
  have hplain : ({ field, faults } : FieldServer) = { ({ field } : FieldServer) with faults } := rfl
  rw [hplain, afterTicks_with_faults,
    funext (answer_with_faults { field } (.ofSpan tick) faults)] at hserves
  apply TickDriver.delivers_of_serves hserves
  intro i hi
  rw [getElem_upTo, tick_answer]
  rfl

/-- The first tick that the fault plan does not let the server answer ends in an error. -/
theorem advance_of_drops (field : Field) {faults : FaultPlan} {tick : Span} {n : ℕ}
    (hdrops : faults.drops n = true) {d : TickDriver Post} (hlink : d.link = link)
    (hstate : d.state = ⟨{ afterTicks { field } (.ofSpan tick) n with faults }, []⟩) :
    d.advance tick = (.error .noWorldProducer, d.counted tick
      ⟨{ afterTicks { field } (.ofSpan tick) n with faults, stopped := true }, []⟩) := by
  have hserved := served_afterTicks { field } (.ofSpan tick) n
  rw [Nat.zero_add] at hserved
  have hpublish := publish_of_drops (s := { afterTicks { field } (.ofSpan tick) n with faults })
    (stopped_afterTicks { field } _ n) (by rw [hserved]; exact hdrops) (.ofSpan tick)
  rw [← hstate, ← hlink] at hpublish
  exact TickDriver.advance_of_unanswered hpublish (by rw [hlink]; rfl)

end FieldServer

end Lockstep
