import Lockstep.Proofs.Json.Numbers
import Lockstep.Proofs.Json.Records
import Lockstep.Proofs.Run.RunId

namespace Lockstep

open Json

variable {floats : FloatRule}

theorem Json.reads_word {n : ℕ} (hn : n < wordLimit) : Reads (readNat floats wordLimit) (.nat n) n :=
  reads_nat floats hn le_rfl

@[simp] theorem Json.mem_unlessNone {name key : String} {value : Option Json} {j : Json} :
    (name, j) ∈ unlessNone key value ↔ name = key ∧ value = some j := by
  cases value with
  | none => simp [unlessNone]
  | some => simp [unlessNone, eq_comm]

structure Point.Fits (p : Point) : Prop where
  x : p.x.isFinite = true
  y : p.y.isFinite = true

theorem Point.reads (hfloats : floats.ReadsBack) {p : Point} (h : p.Fits) :
    Reads (Point.read floats) p.json p :=
  (reads_pair floats (reads_float hfloats h.x) (reads_float hfloats h.y)).map fun _ => rfl

def TickCommand.Fits (t : TickCommand) : Prop := t.milliseconds.isFinite = true

theorem TickCommand.reads (hfloats : floats.ReadsBack) {t : TickCommand} (h : t.Fits) :
    Reads (TickCommand.read floats) t.json t :=
  (reads_record floats (.next (reads_float hfloats h) (by simp) .nil)).map fun _ => rfl

theorem Team.reads (t : Team) : Reads (Team.read floats) t.json t := by
  cases t with
  | blue => exact reads_oneOf floats rfl
  | yellow => exact reads_oneOf floats rfl

structure Robot.Fits (r : Robot) : Prop where
  id : r.id < UInt32.size
  position : r.position.Fits
  velocity : r.velocity.Fits
  orientation : r.orientation.isFinite = true

theorem Robot.reads (hfloats : floats.ReadsBack) {r : Robot} (h : r.Fits) :
    Reads (Robot.read floats) r.json r := by
  have hrow : Awaits (Robot.members floats) (Robot.members floats).blank _ _ :=
    .next (reads_nat floats h.id (by decide)) (by simp) <| .next (Team.reads r.team) (by simp) <|
    .next (Point.reads hfloats h.position) (by simp) <| .next (Point.reads hfloats h.velocity) (by simp) <|
    .next (reads_float hfloats h.orientation) (by simp) .nil
  exact (reads_record floats hrow).map fun _ => rfl

structure Ball.Fits (b : Ball) : Prop where
  position : b.position.Fits
  velocity : b.velocity.Fits

theorem Ball.reads (hfloats : floats.ReadsBack) {b : Ball} (h : b.Fits) :
    Reads (Ball.read floats) b.json b := by
  have hrow : Awaits (Ball.members floats) (Ball.members floats).blank _ _ :=
    .next (Point.reads hfloats h.position) (by simp) <| .next (Point.reads hfloats h.velocity) (by simp) .nil
  exact (reads_record floats hrow).map fun _ => rfl

/-- The elements of a list are read back if each of them is. -/
theorem Json.reads_map {α : Type} {json : α → Json} {read : Reader α} {as : List α}
    (h : ∀ a ∈ as, Reads read (json a) a) : Reads (readList floats read) (.list (as.map json)) as := by
  refine reads_list floats ?_
  rw [List.forall₂_map_left_iff]
  exact List.forall₂_same.mpr h

structure Snapshot.Fits (w : Snapshot) : Prop where
  tick : w.tick < wordLimit
  timestamp : w.timestamp.isFinite = true
  robots : ∀ r ∈ w.robots, r.Fits
  ball : w.ball.Fits

theorem Snapshot.reads (hfloats : floats.ReadsBack) {w : Snapshot} (h : w.Fits) :
    Reads (Snapshot.read floats) w.json w := by
  have hrow : Awaits (Snapshot.members floats) (Snapshot.members floats).blank _ _ :=
    .next (reads_word h.tick) (by simp) <| .next (reads_float hfloats h.timestamp) (by simp) <|
    .next (reads_map fun r hr => Robot.reads hfloats (h.robots r hr)) (by simp) <|
    .next (Ball.reads hfloats h.ball) (by simp) .nil
  exact (reads_record floats hrow).map fun _ => rfl

def Region.Fits : Region → Prop
  | rectangle min max => min.Fits ∧ max.Fits
  | circle center radius => center.Fits ∧ radius.isFinite = true

theorem Region.reads (hfloats : floats.ReadsBack) {r : Region} (h : r.Fits) :
    Reads (Region.read floats) r.json r := by
  cases r with
  | rectangle min max =>
    have hrow : Awaits (Region.corners floats) (Region.corners floats).blank _ _ :=
      .next (Point.reads hfloats h.1) (by simp) <| .next (Point.reads hfloats h.2) (by simp) .nil
    exact reads_tagged rfl ((reads_record floats hrow).map fun _ => rfl)
  | circle center radius =>
    have hrow : Awaits (Region.disk floats) (Region.disk floats).blank _ _ :=
      .next (Point.reads hfloats h.1) (by simp) <| .next (reads_float hfloats h.2) (by simp) .nil
    exact reads_tagged rfl ((reads_record floats hrow).map fun _ => rfl)

theorem Status.reads (s : Status) : Reads (Status.read floats) s.json s := by
  cases s with
  | pending => exact reads_oneOf floats rfl
  | passed => exact reads_oneOf floats rfl
  | failed => exact reads_oneOf floats rfl

theorem Rule.reads (r : Rule) : Reads (Rule.read floats) r.json r := by
  cases r with
  | always => exact reads_oneOf floats rfl
  | eventually => exact reads_oneOf floats rfl

theorem Json.reads_textOrNull (s : Option String) : Reads (optional (readText floats)) (textOrNull s) s := by
  cases s with
  | none => exact reads_none _
  | some s => exact reads_some (reads_text floats s)

structure SequenceReport.Fits (r : SequenceReport) : Prop where
  completed : r.completed < wordLimit
  total : r.total < wordLimit

theorem SequenceReport.reads {r : SequenceReport} (h : r.Fits) : Reads (SequenceReport.read floats) r.json r := by
  have hdetail := Awaits.maybe "detail" r.detail (fun s _ => reads_some (reads_text floats s)) List.not_mem_nil .nil
  rw [List.append_nil] at hdetail
  have hrow : Awaits (SequenceReport.members floats) (SequenceReport.members floats).blank _ _ :=
    .next (reads_text floats r.sequence) (by simp) <| .next (Status.reads r.status) (by simp) <|
    .next (reads_textOrNull r.predicate) (by simp) <|
    .next (reads_word h.completed) (by simp) <| .next (reads_word h.total) (by simp) hdetail
  exact (reads_record floats hrow).map fun _ => rfl

structure Report.Fits (r : Report) : Prop where
  tick : r.tick < wordLimit
  sequences : ∀ s ∈ r.sequences, s.Fits

theorem Report.reads {r : Report} (h : r.Fits) : Reads (Report.read floats) r.json r := by
  have hrow : Awaits (Report.members floats) (Report.members floats).blank _ _ :=
    .next (reads_word h.tick) (by simp) <|
    .next (reads_map fun s hs => SequenceReport.reads (h.sequences s hs)) (by simp) .nil
  exact (reads_record floats hrow).map fun _ => rfl

structure Failure.Fits (f : Failure) : Prop where
  tick : f.tick < wordLimit
  sequences : ∀ s ∈ f.sequences, s.Fits

theorem Failure.reads {f : Failure} (h : f.Fits) : Reads (Failure.read floats) f.json f := by
  have hrow : Awaits (Failure.members floats) (Failure.members floats).blank _ _ :=
    .next (Rule.reads f.rule) (by simp) <| .next (reads_word h.tick) (by simp) <|
    .next (reads_map fun s hs => SequenceReport.reads (h.sequences s hs)) (by simp) .nil
  exact (reads_record floats hrow).map fun _ => rfl

structure Frame.Fits (f : Frame) : Prop where
  elapsed : f.elapsed.isFinite = true
  world : f.world.Fits
  eventually : f.eventually.Fits
  always : f.always.Fits

theorem Frame.reads (hfloats : floats.ReadsBack) {f : Frame} (h : f.Fits) :
    Reads (Frame.read floats) f.json f := by
  have hrow : Awaits (Frame.members floats) (Frame.members floats).blank _ _ :=
    .next (reads_float hfloats h.elapsed) (by simp) <| .next (Snapshot.reads hfloats h.world) (by simp) <|
    .next (Report.reads h.eventually) (by simp) <| .next (Report.reads h.always) (by simp) .nil
  exact (reads_record floats hrow).map fun _ => rfl

theorem OutcomeKind.reads (k : OutcomeKind) : Reads (OutcomeKind.read floats) k.json k := by
  cases k with
  | passed => exact reads_oneOf floats rfl
  | failedAlways => exact reads_oneOf floats rfl
  | failedEventually => exact reads_oneOf floats rfl
  | failedException => exact reads_oneOf floats rfl

theorem OutcomeKind.reads_some (k : OutcomeKind) :
    Reads (optional (OutcomeKind.read floats)) k.json (some k) := by
  have h : Reads (OutcomeKind.read floats) k.json k := k.reads
  cases k with
  | passed => exact Json.reads_some h
  | failedAlways => exact Json.reads_some h
  | failedEventually => exact Json.reads_some h
  | failedException => exact Json.reads_some h

theorem RunId.reads (id : RunId) : Reads (RunId.read floats) (.text id.text) id := by
  intro b cs rest hb hw hrest
  rw [RunId.read, reads_text floats id.text hb hw hrest, ok_bind]
  dsimp only
  rw [id.ofText?_text]

structure RunExport.Fits (e : RunExport) : Prop where
  seed : e.seed < wordLimit
  timeout : e.timeout.isFinite = true
  tickDuration : e.tickDuration.isFinite = true
  frames : ∀ f ∈ e.frames, f.Fits
  totalTicks : e.totalTicks < wordLimit

theorem RunExport.reads (hfloats : floats.ReadsBack) {e : RunExport} (h : e.Fits) :
    Reads (RunExport.read floats) e.json e := by
  have hframes : ∀ f ∈ e.frames.toList, f.Fits := fun f hf => h.frames f (Array.mem_toList_iff.mp hf)
  have htotal : Awaits (.required "total_ticks" (readNat floats wordLimit) .nil) (none, ())
      [("total_ticks", Json.nat e.totalTicks)] (e.totalTicks, ()) :=
    .next (reads_word h.totalTicks) (by simp) .nil
  have hreason := Awaits.maybe "failure_reason" e.failureReason (fun s _ => Json.reads_some (reads_text floats s))
    (by simp) htotal
  have houtcome (k : OutcomeKind) : Reads (optional (OutcomeKind.read floats)) k.json (some k) := k.reads_some
  have hend := Awaits.maybe "outcome" e.outcome (fun k _ => houtcome k) (by simp) hreason
  have hrow : Awaits (RunExport.members floats) (RunExport.members floats).blank _ _ :=
    .next (RunId.reads e.runId) (by simp) <|
    .next (reads_text floats e.scenario) (by simp) <|
    .next (reads_word h.seed) (by simp) <|
    .next (reads_float hfloats h.timeout) (by simp) <|
    .next (reads_float hfloats h.tickDuration) (by simp) <|
    .next (reads_map fun f hf => Frame.reads hfloats (hframes f hf))
      (by simp) hend
  -- the optional members stand in the middle, with the last member behind them
  have hread : Reads (RunExport.read floats) (.record _) e := (reads_record floats hrow).map fun _ => rfl
  rw [RunExport.json, List.append_assoc, List.append_assoc]
  exact hread

end Lockstep
