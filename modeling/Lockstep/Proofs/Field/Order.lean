import Lockstep.Proofs.Field.Isolation

namespace Lockstep

/-- The key under which a snapshot lists a robot. -/
def Robot.key (r : Robot) : RobotKey := ⟨r.team, r.id⟩

namespace RobotKey

/-- Blue comes before yellow, and in a team the smaller id before the larger one. -/
def Precedes (a b : RobotKey) : Prop :=
  (a.team = .blue ∧ b.team = .yellow) ∨ (a.team = b.team ∧ a.id < b.id)

theorem before_iff {a b : RobotKey} : a.before b = true ↔ a.Precedes b := by
  rcases a with ⟨_ | _, i⟩ <;> rcases b with ⟨_ | _, j⟩ <;> simp [before, Precedes]

theorem Precedes.trans {a b c : RobotKey} (hab : a.Precedes b) (hbc : b.Precedes c) :
    a.Precedes c := by
  rcases a with ⟨_ | _, i⟩ <;> rcases b with ⟨_ | _, j⟩ <;> rcases c with ⟨_ | _, k⟩ <;>
    simp [Precedes] at * <;> omega

theorem Precedes.ne {a b : RobotKey} (h : a.Precedes b) : a ≠ b := by
  rintro rfl
  rcases h with ⟨hblue, hyellow⟩ | ⟨-, hid⟩
  · rw [hblue] at hyellow
    cases hyellow
  · exact Nat.lt_irrefl _ hid

theorem precedes_of_ne {a b : RobotKey} (hne : a ≠ b) (h : ¬ a.Precedes b) : b.Precedes a := by
  rcases a with ⟨_ | _, i⟩ <;> rcases b with ⟨_ | _, j⟩ <;> simp [Precedes] at * <;> omega

end RobotKey

namespace Field

/-- The robots stand in the order of their keys. -/
def InOrder (robots : List FieldRobot) : Prop :=
  robots.Pairwise fun a b => a.key.Precedes b.key

theorem mem_keys_insertRobot {key : RobotKey} (r : FieldRobot) (robots : List FieldRobot) :
    key ∈ (insertRobot r robots).map (·.key) ↔ key = r.key ∨ key ∈ robots.map (·.key) := by
  induction robots with
  | nil => simp only [insertRobot, List.map_cons, List.map_nil, List.mem_cons]
  | cons s rest ih =>
    rw [insertRobot]
    split
    · rename_i hsame
      simp only [List.map_cons, List.mem_cons, ← hsame, or_self_left]
    · split
      · simp only [List.map_cons, List.mem_cons]
      · rw [List.map_cons, List.mem_cons, ih, List.map_cons, List.mem_cons]
        exact or_left_comm

theorem InOrder.insertRobot {robots : List FieldRobot} (h : InOrder robots) (r : FieldRobot) :
    InOrder (insertRobot r robots) := by
  induction robots with
  | nil => exact List.pairwise_singleton _ r
  | cons s rest ih =>
    obtain ⟨hfirst, hrest⟩ := List.pairwise_cons.mp h
    rw [Field.insertRobot]
    split
    · -- the robot takes the place of the one with its key
      rename_i hsame
      apply List.pairwise_cons.mpr
      refine ⟨?_, hrest⟩
      intro t ht
      rw [hsame]
      exact hfirst t ht
    · rename_i hother
      split
      · -- it comes before all others
        rename_i hbefore
        have hrs := RobotKey.before_iff.mp hbefore
        apply List.pairwise_cons.mpr
        refine ⟨?_, h⟩
        intro t ht
        rcases List.mem_cons.mp ht with rfl | ht
        · exact hrs
        · exact hrs.trans (hfirst t ht)
      · -- it comes somewhere behind the first, which precedes it like all the rest
        rename_i hafter
        have hsr : s.key.Precedes r.key :=
          RobotKey.precedes_of_ne hother fun hrs => hafter (RobotKey.before_iff.mpr hrs)
        apply List.pairwise_cons.mpr
        refine ⟨?_, ih hrest⟩
        intro t ht
        have hkey := (mem_keys_insertRobot r rest).mp (List.mem_map_of_mem ht)
        rcases hkey with hkey | hkey
        · exact hkey ▸ hsr
        · obtain ⟨u, hu, hut⟩ := List.mem_map.mp hkey
          exact hut ▸ hfirst u hu

/-- A robot whose key is taken replaces the one that has it, and moves no other. -/
theorem InOrder.insertRobot_eq_map {robots : List FieldRobot} (h : InOrder robots) {r : FieldRobot}
    (htaken : r.key ∈ robots.map (·.key)) :
    Field.insertRobot r robots = robots.map fun s => if s.key = r.key then r else s := by
  induction robots with
  | nil => cases htaken
  | cons s rest ih =>
    obtain ⟨hfirst, hrest⟩ := List.pairwise_cons.mp h
    rw [Field.insertRobot, List.map_cons]
    split
    · rename_i hsame
      -- the robots after this one have later keys, and stay
      have hlater : rest.map (fun t => if t.key = r.key then r else t) = rest.map id := by
        apply List.map_congr_left
        intro t ht
        rw [hsame, if_neg (hfirst t ht).ne.symm, id]
      rw [if_pos hsame.symm, hlater, List.map_id]
    · rename_i hother
      have hin : r.key ∈ rest.map (·.key) := (List.mem_cons.mp htaken).resolve_left hother
      obtain ⟨t, ht, hkey⟩ := List.mem_map.mp hin
      have hsr : s.key.Precedes r.key := hkey ▸ hfirst t ht
      have hnot : ¬ r.key.before s.key = true := by
        intro hbefore
        exact (hsr.trans (RobotKey.before_iff.mp hbefore)).ne rfl
      rw [if_neg hnot, if_neg (Ne.symm hother), ih hrest hin]

/-- The keys of the robots, in the order of the robots. -/
def keys (f : Field) : List RobotKey := f.robots.map (·.key)

theorem InOrder.of_keys {f g : Field} (h : InOrder f.robots) (hkeys : g.keys = f.keys) :
    InOrder g.robots := by
  have hg : g.keys.Pairwise RobotKey.Precedes := by
    rw [hkeys]
    exact List.pairwise_map.mpr h
  exact List.pairwise_map.mp hg

theorem mem_keys_iff {f : Field} {key : RobotKey} : key ∈ f.keys ↔ (f.find? key).isSome := by
  rw [find?, List.find?_isSome, keys, List.mem_map]
  simp only [decide_eq_true_eq]

theorem keys_change (f : Field) (key : RobotKey) {change : FieldRobot → FieldRobot}
    (hkey : ∀ r, (change r).key = r.key) : (f.change key change).keys = f.keys := by
  rw [keys, Field.change, List.map_map]
  apply List.map_congr_left
  intro r _
  rw [Function.comp_apply]
  split
  · exact hkey r
  · rfl

theorem keys_step (f : Field) (dt : Float) : (f.step dt).keys = f.keys := by
  rw [keys, step, List.map_map]
  apply List.map_congr_left
  intro r _
  exact r.key_step dt

/-- What a step leaves alone, any number of steps do. -/
theorem stepTimes_of_kept {α : Type} (view : Field → α) {dt : Float}
    (hstep : ∀ f : Field, view (f.step dt) = view f) (n : ℕ) (f : Field) :
    view (stepTimes dt n f) = view f := by
  induction n generalizing f with
  | zero => rfl
  | succ n ih => exact (ih (f.step dt)).trans (hstep f)

/-- The operation puts a robot with the key on the field. -/
def Operation.Spawns (op : Operation) (key : RobotKey) : Prop :=
  ∃ position, op = .spawn key position

/-- The script puts a robot with the key on the field. -/
def Spawned (ops : List Operation) (key : RobotKey) : Prop := ∃ op ∈ ops, op.Spawns key

namespace Operation

/-- Which keys there are is changed by a spawn only. -/
theorem eq_spawn_or_keys_perform (op : Operation) (f : Field) :
    (∃ key position, op = .spawn key position) ∨
      ((∀ key, ¬ op.Spawns key) ∧ (op.perform f).2.keys = f.keys) := by
  cases op with
  | spawn key position => exact Or.inl ⟨key, position, rfl⟩
  | velocity key v =>
    right
    exact ⟨nofun, keys_change f key fun r => r.key_setVelocity v⟩
  | move key target speed =>
    right
    exact ⟨nofun, keys_change f key fun r => r.key_driveTo target speed⟩
  | step dt times =>
    right
    exact ⟨nofun, stepTimes_of_kept keys (fun f => keys_step f dt) times f⟩
  | _ =>
    right
    exact ⟨nofun, rfl⟩

theorem mem_keys_perform {key : RobotKey} (op : Operation) (f : Field) :
    key ∈ (op.perform f).2.keys ↔ op.Spawns key ∨ key ∈ f.keys := by
  rcases op.eq_spawn_or_keys_perform f with ⟨k, position, rfl⟩ | ⟨hother, hkeys⟩
  · have hspawns : (spawn k position).Spawns key ↔ key = k := by
      simp only [Spawns, spawn.injEq, exists_and_left, exists_eq', and_true, eq_comm]
    rw [hspawns]
    exact mem_keys_insertRobot _ f.robots
  · rw [hkeys, or_iff_right (hother key)]

theorem inOrder_perform (op : Operation) {f : Field} (h : InOrder f.robots) :
    InOrder (op.perform f).2.robots := by
  rcases op.eq_spawn_or_keys_perform f with ⟨key, position, rfl⟩ | ⟨-, hkeys⟩
  · exact h.insertRobot _
  · exact h.of_keys hkeys

theorem noise_perform (op : Operation) (f : Field) : (op.perform f).2.noise = f.noise := by
  cases op with
  | step dt times => exact stepTimes_of_kept (·.noise) (fun _ => rfl) times f
  | _ => rfl

end Operation

theorem InOrder.perform {f : Field} (h : InOrder f.robots) (ops : List Operation) :
    InOrder (f.perform ops).2.robots := by
  induction ops generalizing f with
  | nil => exact h
  | cons op ops ih => exact ih (op.inOrder_perform h)

theorem mem_keys_perform {f : Field} {key : RobotKey} (ops : List Operation) :
    key ∈ (f.perform ops).2.keys ↔ Spawned ops key ∨ key ∈ f.keys := by
  induction ops generalizing f with
  | nil => simp only [Field.perform, Spawned, List.not_mem_nil, false_and, exists_false, false_or]
  | cons op ops ih =>
    have hcons : Spawned (op :: ops) key ↔ op.Spawns key ∨ Spawned ops key :=
      List.exists_mem_cons_iff _ op ops
    rw [perform_cons, ih, op.mem_keys_perform, hcons, or_assoc]
    exact or_left_comm

theorem noise_perform (f : Field) (ops : List Operation) : (f.perform ops).2.noise = f.noise := by
  induction ops generalizing f with
  | nil => rfl
  | cons op ops ih => exact (ih _).trans (op.noise_perform f)

theorem robots_snapshot_unplaced (f : Field) (tick : ℕ) :
    (f.snapshot tick).1.robots.map Robot.unplaced = f.robots.map (·.state.unplaced) :=
  observe_unplaced f.noise f.noiseStream f.robots

/-- A snapshot has the robots under the keys of the field. -/
theorem keys_snapshot (f : Field) (tick : ℕ) :
    (f.snapshot tick).1.robots.map Robot.key = f.keys :=
  calc (f.snapshot tick).1.robots.map Robot.key
      = ((f.snapshot tick).1.robots.map Robot.unplaced).map Robot.key := by
        rw [List.map_map]
        rfl
    _ = (f.robots.map (·.state.unplaced)).map Robot.key := by rw [robots_snapshot_unplaced]
    _ = f.keys := by
        rw [List.map_map]
        rfl

end Field

namespace Snapshot

theorem robot?_eq (w : Snapshot) (key : RobotKey) :
    w.robot? key.team key.id = w.robots.find? fun r => r.key = key := by
  obtain ⟨team, id⟩ := key
  unfold robot?
  congr 1
  funext r
  rw [Bool.eq_iff_iff]
  simp only [Bool.and_eq_true, beq_iff_eq, decide_eq_true_eq, Robot.key, RobotKey.mk.injEq]

/-- The robots stand in the order of their keys. -/
def InOrder (w : Snapshot) : Prop := w.robots.Pairwise fun a b => a.key.Precedes b.key

/-- In order, the blue robots come first and then the yellow ones. -/
theorem InOrder.teams {w : Snapshot} (h : w.InOrder) :
    w.ofTeam .blue ++ w.ofTeam .yellow = w.robots := by
  -- by induction on the robots: after the first yellow one there are no blue ones
  obtain ⟨tick, timestamp, robots, ball⟩ := w
  have hrobots : robots.Pairwise fun a b => a.key.Precedes b.key := h
  show robots.filter (·.team == .blue) ++ robots.filter (·.team == .yellow) = robots
  clear h
  induction robots with
  | nil => rfl
  | cons r rest ih =>
    obtain ⟨hfirst, hrest⟩ := List.pairwise_cons.mp hrobots
    cases hteam : r.team with
    | blue =>
      have hblue : (r.team == Team.blue) = true := by rw [hteam]; rfl
      have hyellow : (r.team == Team.yellow) = false := by rw [hteam]; rfl
      rw [List.filter_cons, List.filter_cons, hblue, hyellow, if_pos rfl, if_neg Bool.false_ne_true,
        List.cons_append, ih hrest]
    | yellow =>
      -- no blue robot can follow
      have hall : ∀ t ∈ r :: rest, t.team = .yellow := by
        intro t ht
        rcases List.mem_cons.mp ht with rfl | ht
        · exact hteam
        · rcases hfirst t ht with ⟨hblue, -⟩ | ⟨hsame, -⟩
          · exact absurd (hteam.symm.trans hblue) (by decide)
          · exact hsame.symm.trans hteam
      have hblue : (r :: rest).filter (·.team == Team.blue) = [] := by
        apply List.filter_eq_nil_iff.mpr
        intro t ht
        rw [hall t ht]
        exact Bool.false_ne_true
      have hyellow : (r :: rest).filter (·.team == Team.yellow) = r :: rest := by
        apply List.filter_eq_self.mpr
        intro t ht
        rw [hall t ht]
        rfl
      rw [hblue, hyellow, List.nil_append]

end Snapshot

namespace Field

theorem InOrder.snapshot {f : Field} (h : InOrder f.robots) (tick : ℕ) :
    (f.snapshot tick).1.InOrder := by
  have hf : f.keys.Pairwise RobotKey.Precedes := List.pairwise_map.mpr h
  rw [← keys_snapshot f tick] at hf
  exact List.pairwise_map.mp hf

theorem robot?_snapshot_unplaced (f : Field) (tick : ℕ) (key : RobotKey) :
    ((f.snapshot tick).1.robot? key.team key.id).map Robot.unplaced =
      (f.find? key).map (·.state.unplaced) := by
  have hfind := congrArg (List.find? fun r : Robot => r.key = key) (robots_snapshot_unplaced f tick)
  rw [List.find?_map, List.find?_map] at hfind
  rw [Snapshot.robot?_eq]
  exact hfind

theorem robot?_snapshot_of_noise {f : Field} (h : f.noise = none) (tick : ℕ) (key : RobotKey) :
    (f.snapshot tick).1.robot? key.team key.id = (f.find? key).map (·.state) := by
  have hrobots : (f.snapshot tick).1.robots = f.robots.map (·.state) := by
    show (observe f.noise f.noiseStream f.robots).1 = _
    rw [h, observe_none]
  rw [Snapshot.robot?_eq, hrobots, List.find?_map]
  rfl

theorem change_of_find?_eq_none {g : Field} {key : RobotKey} (h : g.find? key = none)
    (change : FieldRobot → FieldRobot) : g.change key change = g := by
  have hsame : g.robots.map (fun r => if r.key = key then change r else r) = g.robots.map id := by
    apply List.map_congr_left
    intro r hr
    have hne : ¬ r.key = key := by
      simpa only [decide_eq_true_eq] using List.find?_eq_none.mp h r hr
    rw [if_neg hne, id]
  rw [Field.change, hsame, List.map_id]

/-- The operation finds its robot if it is there, and changes nothing if it is not. -/
structure Operation.Finds (op : Operation) (g : Field) (there : Prop) : Prop where
  found : there → (op.perform g).1 = .known true
  missed : ¬ there → op.perform g = (.known false, g)

theorem Operation.finds_of_perform {op : Operation} {g : Field} {key : RobotKey}
    {change : FieldRobot → FieldRobot}
    (h : op.perform g = (.known (g.find? key).isSome, g.change key change)) :
    op.Finds g (key ∈ g.keys) := by
  rw [mem_keys_iff]
  constructor
  · intro hthere
    rw [h, hthere]
  · intro hmissing
    have hnone : g.find? key = none := Option.not_isSome_iff_eq_none.mp hmissing
    rw [h, hnone, change_of_find?_eq_none hnone]
    rfl

/-- A snapshot that lists the robots of a field on which robots with these keys are. -/
structure Reports (g : Field) (there : RobotKey → Prop) (w : Snapshot) : Prop where
  ordered : w.robots.Pairwise fun a b =>
    (a.team = .blue ∧ b.team = .yellow) ∨ (a.team = b.team ∧ a.id < b.id)
  nodup : (w.robots.map Robot.key).Nodup
  keys : ∀ key, key ∈ w.robots.map Robot.key ↔ there key
  teams : w.ofTeam .blue ++ w.ofTeam .yellow = w.robots
  /-- A robot is found in the snapshot if it is on the field, and it is the same one but for the sensors. -/
  found : ∀ key, (w.robot? key.team key.id).isSome = (g.position? key).isSome ∧
    (w.robot? key.team key.id).map Robot.unplaced = (g.find? key).map (·.state.unplaced)
  truthful : g.noise = none →
    ∀ key, (w.robot? key.team key.id).map (·.position) = g.position? key

theorem reports_snapshot {g : Field} (hg : InOrder g.robots) (tick : ℕ) :
    g.Reports (· ∈ g.keys) (g.snapshot tick).1 := by
  have hw := hg.snapshot tick
  have hkeys := g.keys_snapshot tick
  refine ⟨hw, ?_, ?_, hw.teams, ?_, ?_⟩
  · have hpairs := List.pairwise_map.mpr hw
    exact hpairs.imp fun hab => hab.ne
  · intro key
    rw [hkeys]
  · intro key
    have hsame := g.robot?_snapshot_unplaced tick key
    have hsome := congrArg Option.isSome hsame
    rw [Option.isSome_map, Option.isSome_map] at hsome
    refine ⟨?_, hsame⟩
    rw [hsome, position?, Option.isSome_map]
  · intro hnoise key
    rw [robot?_snapshot_of_noise hnoise, Option.map_map]
    rfl

/-- **Robots in order.** Take any script on a field that was empty before. A snapshot then lists the robots
strictly by team and id, blue before yellow, one under each key that the script has spawned, so the teams one
after the other are all of them. A robot is found in it exactly if it has a position on the field, and without
noise at that position. Setting a velocity and sending a robot somewhere find exactly the robots that were
spawned, and change nothing for another key. Spawning a key again puts a robot at rest, without a target, in the
place of the one with the key and changes nothing else. -/
theorem perform_ordered (f : Field) (hempty : f.robots = []) (ops : List Operation) :
    let g := (f.perform ops).2
    (g.noise = f.noise ∧ ∀ tick, g.Reports (Spawned ops) (g.snapshot tick).1) ∧
    (∀ key, (∀ v, (Operation.velocity key v).Finds g (Spawned ops key)) ∧
      ∀ target speed, (Operation.move key target speed).Finds g (Spawned ops key)) ∧
    ∀ key position, Spawned ops key →
      let placed : FieldRobot :=
        { state := { id := key.id, team := key.team, position, velocity := .origin, orientation := 0.0 }
          target := none, maxSpeed := 0.0 }
      (g.spawn key position).find? key = some placed ∧
        g.spawn key position =
          { g with robots := g.robots.map fun r => if r.key = key then placed else r } := by
  intro g
  have hnone : InOrder f.robots := by
    rw [hempty]
    exact List.Pairwise.nil
  have hg : InOrder g.robots := hnone.perform ops
  have hkeys : (· ∈ g.keys) = Spawned ops := by
    funext key
    apply propext
    rw [mem_keys_perform, keys, hempty, List.map_nil, or_iff_left List.not_mem_nil]
  refine ⟨⟨f.noise_perform ops, ?_⟩, ?_, ?_⟩
  · intro tick
    rw [← hkeys]
    exact reports_snapshot hg tick
  · intro key
    rw [← hkeys]
    exact ⟨fun v => Operation.finds_of_perform rfl, fun target speed => Operation.finds_of_perform rfl⟩
  · intro key position hspawned placed
    rw [← hkeys] at hspawned
    have hreplaced : insertRobot placed g.robots =
        g.robots.map fun r => if r.key = key then placed else r := hg.insertRobot_eq_map hspawned
    refine ⟨?_, ?_⟩
    · rw [find?_spawn, if_pos rfl]
      rfl
    · rw [← hreplaced]
      rfl

/-- A robot that was sent somewhere is spawned again, before one of its team that was spawned later. -/
theorem perform_ordered_again :
    let keeper : RobotKey := ⟨.blue, 2⟩
    let f : Field := { ofSeed 7 with noise := some 0.05 }
    let ops : List Operation := [.spawn ⟨.yellow, 1⟩ .origin, .spawn keeper .origin,
      .move keeper ⟨1.0, 0.0⟩ 0.5, .step 0.1 3, .spawn ⟨.blue, 0⟩ .origin]
    let g := (f.perform ops).2
    f.robots = [] ∧ Spawned ops keeper ∧ ¬ Spawned ops ⟨.yellow, 2⟩ ∧
      (g.snapshot 4).1.robots.map Robot.key = g.keys ∧
      ⟨.yellow, 2⟩ ∉ (g.snapshot 4).1.robots.map Robot.key ∧
      (Operation.velocity ⟨.yellow, 2⟩ .origin).perform g = (.known false, g) ∧
      ∃ r, (g.spawn keeper .origin).find? keeper = some r ∧ r.target = none ∧
        r.state.velocity = .origin := by
  intro keeper f ops g
  have hempty : f.robots = [] := rfl
  have hspawned : Spawned ops keeper :=
    ⟨.spawn keeper .origin, List.mem_cons_of_mem _ List.mem_cons_self, .origin, rfl⟩
  have hnever : ¬ Spawned ops ⟨.yellow, 2⟩ := by
    rintro ⟨op, hop, position, rfl⟩
    simp [ops, keeper] at hop
  obtain ⟨⟨-, hreports⟩, hfinds, hspawn⟩ := perform_ordered f hempty ops
  refine ⟨hempty, hspawned, hnever, g.keys_snapshot 4, ?_, ?_, ?_⟩
  · exact fun hlisted => hnever (((hreports 4).keys _).mp hlisted)
  · exact ((hfinds _).1 .origin).missed hnever
  · exact ⟨_, (hspawn keeper .origin hspawned).1, rfl, rfl⟩

end Field

end Lockstep
