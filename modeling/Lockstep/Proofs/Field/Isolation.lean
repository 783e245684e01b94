import Lockstep.Field.Basic
import Mathlib.Data.List.Basic

namespace Lockstep

namespace FieldRobot

theorem key_setVelocity (r : FieldRobot) (velocity : Point) :
    (r.setVelocity velocity).key = r.key := rfl

theorem key_driveTo (r : FieldRobot) (target : Point) (speed : Float) :
    (r.driveTo target speed).key = r.key := rfl

theorem key_step (r : FieldRobot) (dt : Float) : (r.step dt).key = r.key := by
  unfold step
  cases r.target with
  | none => rfl
  | some target =>
    dsimp only
    split <;> rfl

end FieldRobot

/-- The robot without its position. -/
def Robot.unplaced (r : Robot) : Robot := { r with position := .origin }

/-- The snapshot without the positions of its robots. -/
def Snapshot.unplaced (w : Snapshot) : Snapshot := { w with robots := w.robots.map Robot.unplaced }

namespace Field

section Find

variable {key : RobotKey}

/-- Changes that leave the keys alone change the robot that is found. -/
theorem find?_map {change : FieldRobot → FieldRobot} (hkey : ∀ r, (change r).key = r.key)
    (robots : List FieldRobot) :
    (robots.map change).find? (·.key = key) = (robots.find? (·.key = key)).map change := by
  have hsame : (fun r : FieldRobot => decide (r.key = key)) ∘ change =
      fun r => decide (r.key = key) := by
    funext r
    simp only [Function.comp_apply, hkey]
  rw [List.find?_map, hsame]

theorem find?_cons_eq (r : FieldRobot) (robots : List FieldRobot) :
    (r :: robots).find? (·.key = key) =
      if r.key = key then some r else robots.find? (·.key = key) := by
  rw [List.find?_cons]
  split
  · rename_i hr
    rw [if_pos (of_decide_eq_true hr)]
  · rename_i hr
    rw [if_neg (of_decide_eq_false hr)]

/-- A robot that is put in is found by its key, and hides no other one. -/
theorem find?_insertRobot (r : FieldRobot) (robots : List FieldRobot) :
    (insertRobot r robots).find? (·.key = key) =
      if r.key = key then some r else robots.find? (·.key = key) := by
  induction robots with
  | nil => rw [insertRobot, find?_cons_eq]
  | cons s rest ih =>
    rw [insertRobot, find?_cons_eq s]
    split
    · rename_i hsame
      rw [find?_cons_eq, hsame]
      split <;> rfl
    · rename_i hother
      split
      · rw [find?_cons_eq, find?_cons_eq]
      · -- the two keys differ, so at most one of them is the key that is looked for
        rw [find?_cons_eq, ih]
        split
        · rename_i hs
          have hr : r.key ≠ key := fun hr => hother (hr.trans hs.symm)
          rw [if_neg hr]
        · rfl

theorem find?_spawn (f : Field) (k : RobotKey) (position : Point) :
    (f.spawn k position).find? key =
      if k = key then some (.placed k.team k.id position) else f.find? key :=
  find?_insertRobot _ f.robots

theorem find?_change (f : Field) (k : RobotKey) {change : FieldRobot → FieldRobot}
    (hkey : ∀ r, (change r).key = r.key) :
    (f.change k change).find? key =
      if k = key then (f.find? key).map change else f.find? key := by
  have hmap : (f.change k change).find? key =
      (f.find? key).map fun r => if r.key = k then change r else r := by
    apply find?_map
    intro r
    split
    · exact hkey r
    · rfl
  rw [hmap]
  cases hfound : f.find? key with
  | none => split <;> rfl
  | some r =>
    have hr : r.key = key := by
      simpa only [decide_eq_true_eq] using List.find?_some hfound
    rw [Option.map_some, Option.map_some, hr]
    simp only [eq_comm]
    split <;> rfl

theorem find?_step (f : Field) (dt : Float) :
    (f.step dt).find? key = (f.find? key).map (·.step dt) :=
  find?_map (fun r => r.key_step dt) f.robots

end Find

theorem perform_cons (f : Field) (op : Operation) (ops : List Operation) :
    f.perform (op :: ops) = ((op.perform f).1 :: ((op.perform f).2.perform ops).1,
      ((op.perform f).2.perform ops).2) := rfl

/-- What a field shows in some respect depends on the operations that are kept, and is none of the others'
business. -/
structure Isolates {α : Type} (view : Field → α) (keeps : Operation → Bool) : Prop where
  kept : ∀ (op : Operation) (f g : Field), keeps op = true → view f = view g →
    view (op.perform f).2 = view (op.perform g).2
  left : ∀ (op : Operation) (f : Field), keeps op = false → view (op.perform f).2 = view f

/-- The operations that are not kept can be taken out of a script. -/
theorem Isolates.perform {α : Type} {view : Field → α} {keeps : Operation → Bool}
    (h : Isolates view keeps) (ops : List Operation) {f g : Field} (hview : view f = view g) :
    view (f.perform ops).2 = view (g.perform (ops.filter keeps)).2 := by
  -- by induction on the script: what is kept moves both fields alike, what is left moves the first unseen
  induction ops generalizing f g with
  | nil => exact hview
  | cons op ops ih =>
    cases hop : keeps op with
    | true =>
      rw [List.filter_cons_of_pos hop]
      exact ih (h.kept op f g hop hview)
    | false =>
      rw [List.filter_cons_of_neg (by rw [hop]; exact Bool.false_ne_true)]
      exact ih ((h.left op f hop).trans hview)

theorem stepTimes_congr {α : Type} (view : Field → α) {dt : Float}
    (hstep : ∀ f g : Field, view f = view g → view (f.step dt) = view (g.step dt)) (n : Nat)
    {f g : Field} (hview : view f = view g) : view (stepTimes dt n f) = view (stepTimes dt n g) := by
  induction n generalizing f g with
  | zero => exact hview
  | succ n ih => exact ih (hstep f g hview)

namespace Operation

/-- The operation is about the robot, or lets time pass. -/
def drives (key : RobotKey) : Operation → Bool
  | spawn k _ => k = key
  | velocity k _ => k = key
  | move k _ _ => k = key
  | step _ _ => true
  | _ => false

/-- The operation is about the ball, or lets time pass. -/
def rolls : Operation → Bool
  | ball _ _ => true
  | step _ _ => true
  | _ => false

/-- The operation lets time pass. -/
def elapses : Operation → Bool
  | step _ _ => true
  | _ => false

end Operation

/-- A robot minds its own operations. -/
theorem isolates_robot (key : RobotKey) : Isolates (·.find? key) (Operation.drives key) := by
  constructor
  · -- what is done to this robot depends on nothing but this robot
    intro op f g hop hview
    cases op with
    | spawn k position => simp only [Operation.perform, find?_spawn, hview]
    | velocity k v =>
      simp only [Operation.perform, find?_change _ k fun r => r.key_setVelocity v, hview]
    | move k target speed =>
      simp only [Operation.perform, find?_change _ k fun r => r.key_driveTo target speed, hview]
    | step dt times =>
      apply stepTimes_congr (·.find? key) _ times hview
      intro f g hview
      rw [find?_step, find?_step, hview]
    | _ => cases hop
  · -- and what is done to another one is done under another key
    intro op f hop
    cases op with
    | spawn k position =>
      have hk : k ≠ key := of_decide_eq_false hop
      simp only [Operation.perform, find?_spawn, if_neg hk]
    | velocity k v =>
      have hk : k ≠ key := of_decide_eq_false hop
      simp only [Operation.perform, find?_change _ k fun r => r.key_setVelocity v, if_neg hk]
    | move k target speed =>
      have hk : k ≠ key := of_decide_eq_false hop
      simp only [Operation.perform, find?_change _ k fun r => r.key_driveTo target speed, if_neg hk]
    | step dt times => cases hop
    | _ => rfl

/-- The ball goes by its own operations and the friction. -/
theorem isolates_ball : Isolates (fun f => (f.ball, f.friction)) Operation.rolls := by
  constructor
  · intro op f g hop hview
    cases op with
    | ball position v =>
      obtain ⟨-, hfriction⟩ := Prod.mk.inj hview
      exact congrArg (Prod.mk _) hfriction
    | step dt times =>
      apply stepTimes_congr (fun f => (f.ball, f.friction)) _ times hview
      intro f g hview
      obtain ⟨hball, hfriction⟩ := Prod.mk.inj hview
      simp only [step, hball, hfriction]
    | _ => cases hop
  · intro op f hop
    cases op with
    | ball position v => cases hop
    | step dt times => cases hop
    | _ => rfl

theorem isolates_time : Isolates (·.time) Operation.elapses := by
  constructor
  · intro op f g hop hview
    cases op with
    | step dt times =>
      apply stepTimes_congr (·.time) _ times hview
      intro f g hview
      exact congrArg (· + dt) hview
    | _ => cases hop
  · intro op f hop
    cases op with
    | step dt times => cases hop
    | _ => rfl

/-- The field with other sensors: their noise, and the keystream that it is drawn from. -/
def sensing (f : Field) (noise : Option Float) (stream : Keystream) : Field :=
  { f with noise, noiseStream := stream }

/-- What a snapshot would be without noise. -/
def truth (f : Field) (tick : Nat) : Snapshot := ⟨tick, f.time, f.robots.map (·.state), f.ball⟩

/-- Whatever noise there is, it is in the positions. -/
theorem observe_unplaced (noise : Option Float) (k : Keystream) (robots : List FieldRobot) :
    (observe noise k robots).1.map Robot.unplaced = robots.map (·.state.unplaced) := by
  induction robots generalizing k with
  | nil => rfl
  | cons r rest ih =>
    cases noise with
    | none =>
      simp only [observe, List.map_cons, ih]
    | some deviation =>
      simp only [observe, List.map_cons, ih]
      rfl

theorem observe_none (k : Keystream) (robots : List FieldRobot) :
    (observe none k robots).1 = robots.map (·.state) := by
  induction robots with
  | nil => rfl
  | cons r rest ih => exact congrArg (r.state :: ·) ih

theorem snapshot_unplaced (f : Field) (tick : Nat) :
    (f.snapshot tick).1.unplaced = (f.truth tick).unplaced := by
  simp only [snapshot, truth, Snapshot.unplaced, observe_unplaced, List.map_map]
  rfl

theorem snapshot_sensing_none (f : Field) (stream : Keystream) (tick : Nat) :
    ((f.sensing none stream).snapshot tick).1 = f.truth tick := by
  simp only [snapshot, truth, sensing, observe_none]

/-- The reply without the positions of robots in a snapshot. -/
def Reply.unplaced : Reply → Reply
  | world w => world w.unplaced
  | reply => reply

theorem stepTimes_sensing (dt : Float) (n : Nat) (f : Field) (noise : Option Float)
    (stream : Keystream) :
    stepTimes dt n (f.sensing noise stream) = (stepTimes dt n f).sensing noise stream := by
  induction n generalizing f with
  | zero => rfl
  | succ n ih => exact ih (f.step dt)

/-- An operation does the same with any sensors, and replies the same but for positions. -/
theorem exists_sensing (f : Field) (noise : Option Float) (stream : Keystream) (op : Operation) :
    (op.perform (f.sensing noise stream)).1.unplaced = (op.perform f).1.unplaced ∧
      ∃ stream', (op.perform (f.sensing noise stream)).2 = (op.perform f).2.sensing noise stream' := by
  cases op with
  | step dt times =>
    simp only [Operation.perform, stepTimes_sensing]
    exact ⟨rfl, stream, rfl⟩
  | snapshot tick =>
    -- the two snapshots are drawn from different streams, but both are the truth but for positions
    have hreport : ((f.sensing noise stream).snapshot tick).1.unplaced =
        (f.snapshot tick).1.unplaced :=
      calc ((f.sensing noise stream).snapshot tick).1.unplaced
          = ((f.sensing noise stream).truth tick).unplaced := snapshot_unplaced _ tick
        _ = (f.truth tick).unplaced := rfl
        _ = (f.snapshot tick).1.unplaced := (snapshot_unplaced f tick).symm
    exact ⟨congrArg Reply.world hreport, _, rfl⟩
  | _ => exact ⟨rfl, stream, rfl⟩

theorem perform_sensing (ops : List Operation) (f : Field) (noise : Option Float)
    (stream : Keystream) :
    ((f.sensing noise stream).perform ops).1.map Reply.unplaced =
        (f.perform ops).1.map Reply.unplaced ∧
      ∃ stream', ((f.sensing noise stream).perform ops).2 =
        (f.perform ops).2.sensing noise stream' := by
  induction ops generalizing f stream with
  | nil => exact ⟨rfl, stream, rfl⟩
  | cons op ops ih =>
    obtain ⟨hreply, between, hbetween⟩ := exists_sensing f noise stream op
    obtain ⟨hreplies, after, hafter⟩ := ih (op.perform f).2 between
    rw [← hbetween] at hreplies hafter
    refine ⟨?_, after, hafter⟩
    rw [perform_cons, perform_cons, List.map_cons, List.map_cons, hreply, hreplies]

/-- **Isolation of the parts of a field.** Take any script. Of a robot it leaves the same state and target as
the script of the operations on that robot and the steps alone, on any two fields that have the robot alike,
whatever else they have. The ball depends on its own operations, the steps and the friction alone, and the time
on the steps alone. With other sensors the script leaves the same field up to its sensors, and gets the same
replies but for the positions of robots in snapshots; and what a snapshot reports is the truth but for these
positions, and without noise the truth altogether. -/
theorem perform_isolated (ops : List Operation) :
    (∀ (key : RobotKey) (f g : Field), f.find? key = g.find? key →
      (f.perform ops).2.find? key = (g.perform (ops.filter (Operation.drives key))).2.find? key) ∧
    (∀ f g : Field, f.ball = g.ball → f.friction = g.friction →
      (f.perform ops).2.ball = (g.perform (ops.filter Operation.rolls)).2.ball) ∧
    (∀ f g : Field, f.time = g.time →
      (f.perform ops).2.time = (g.perform (ops.filter Operation.elapses)).2.time) ∧
    (∀ (f : Field) (noise : Option Float) (stream : Keystream),
      ((f.sensing noise stream).perform ops).1.map Reply.unplaced =
          (f.perform ops).1.map Reply.unplaced ∧
        ∃ stream', ((f.sensing noise stream).perform ops).2 =
          (f.perform ops).2.sensing noise stream') ∧
    ∀ (f : Field) (tick : Nat), (f.snapshot tick).1.unplaced = (f.truth tick).unplaced ∧
      ∀ stream, ((f.sensing none stream).snapshot tick).1 = f.truth tick := by
  refine ⟨?_, ?_, ?_, perform_sensing ops, ?_⟩
  · intro key f g hrobot
    exact (isolates_robot key).perform ops hrobot
  · intro f g hball hfriction
    have hview : (f.ball, f.friction) = (g.ball, g.friction) := by rw [hball, hfriction]
    exact congrArg Prod.fst (isolates_ball.perform ops hview)
  · intro f g htime
    exact isolates_time.perform ops htime
  · intro f tick
    exact ⟨snapshot_unplaced f tick, fun stream => snapshot_sensing_none f stream tick⟩

/-- Two fields with other seeds, sensors and friction, and a script about two robots and the ball. -/
theorem perform_isolated_of_two :
    let keeper : RobotKey := ⟨.blue, 1⟩
    let striker : RobotKey := ⟨.yellow, 4⟩
    let f : Field := { ofSeed 7 with noise := some 0.05 }
    let g : Field := { ofSeed 8 with friction := 2.0 }
    let ops : List Operation := [.spawn striker ⟨1.0, 1.0⟩, .spawn keeper .origin,
      .ball .origin ⟨3.0, 0.0⟩, .move keeper ⟨1.0, 0.0⟩ 0.5, .step 0.1 3, .snapshot 1,
      .velocity striker ⟨0.0, 1.0⟩, .position keeper, .step 0.1 2]
    f.find? keeper = g.find? keeper ∧ f.ball = (ofSeed 8).ball ∧
      f.friction = (ofSeed 8).friction ∧ f.time = g.time ∧
      (f.perform ops).2.find? keeper = (g.perform [.spawn keeper .origin,
        .move keeper ⟨1.0, 0.0⟩ 0.5, .step 0.1 3, .step 0.1 2]).2.find? keeper ∧
      (f.perform ops).2.ball =
        ((ofSeed 8).perform [.ball .origin ⟨3.0, 0.0⟩, .step 0.1 3, .step 0.1 2]).2.ball ∧
      (f.perform ops).2.time = (g.perform [.step 0.1 3, .step 0.1 2]).2.time := by
  intro keeper striker f g ops
  have hfound : f.find? keeper = g.find? keeper := rfl
  have hball : f.ball = (ofSeed 8).ball := rfl
  have hfriction : f.friction = (ofSeed 8).friction := rfl
  have htime : f.time = g.time := rfl
  have hdrives : ops.filter (Operation.drives keeper) = [.spawn keeper .origin,
      .move keeper ⟨1.0, 0.0⟩ 0.5, .step 0.1 3, .step 0.1 2] := rfl
  have hrolls : ops.filter Operation.rolls =
      [.ball .origin ⟨3.0, 0.0⟩, .step 0.1 3, .step 0.1 2] := rfl
  have helapses : ops.filter Operation.elapses = [.step 0.1 3, .step 0.1 2] := rfl
  obtain ⟨hrobot, hrolled, helapsed, -⟩ := perform_isolated ops
  refine ⟨hfound, hball, hfriction, htime, ?_, ?_, ?_⟩
  · rw [hrobot keeper f g hfound, hdrives]
  · rw [hrolled f (ofSeed 8) hball hfriction, hrolls]
  · rw [helapsed f g htime, helapses]

end Field

end Lockstep
