import Lockstep.Proofs.Computation
import Lockstep.Validation.Sequence
import Mathlib.Data.List.GetD

namespace Lockstep

/-- The first members of a sequence that begins at 1. -/
def upTo {α : Type} (f : ℕ → α) (n : ℕ) : List α := (List.range n).map fun i => f (i + 1)

section UpTo

variable {α : Type} {f : ℕ → α} {n : ℕ}

theorem length_upTo : (upTo f n).length = n := by
  rw [upTo, List.length_map, List.length_range]

theorem getElem_upTo {i : ℕ} (h : i < (upTo f n).length) : (upTo f n)[i] = f (i + 1) := by
  simp only [upTo, List.getElem_map, List.getElem_range]

theorem mem_upTo {a : α} : a ∈ upTo f n ↔ ∃ i, 0 < i ∧ i ≤ n ∧ f i = a := by
  simp only [upTo, List.mem_map, List.mem_range]
  constructor
  · rintro ⟨i, hi, rfl⟩
    exact ⟨i + 1, Nat.succ_pos i, hi, rfl⟩
  · rintro ⟨i, hpos, hi, rfl⟩
    obtain ⟨j, rfl⟩ := Nat.exists_eq_add_of_le' hpos
    exact ⟨j, hi, rfl⟩

theorem take_upTo {k : ℕ} (h : k ≤ n) : (upTo f n).take k = upTo f k := by
  rw [upTo, ← List.map_take, List.take_range, Nat.min_eq_left h, upTo]

/-- Every list is the first members of a sequence, which goes on with `a`. -/
theorem exists_upTo_eq (a : α) (as : List α) :
    ∃ f : ℕ → α, upTo f as.length = as ∧ ∀ (i : ℕ) (h : i < as.length), f (i + 1) = as[i] := by
  have hf (i : ℕ) (h : i < as.length) : as.getD (i + 1 - 1) a = as[i] := by
    rw [Nat.add_sub_cancel, List.getD_eq_getElem as a h]
  refine ⟨fun i => as.getD (i - 1) a, ?_, hf⟩
  apply List.ext_getElem
  · exact length_upTo
  · intro i hi hi'
    rw [getElem_upTo, hf i hi']

theorem upTo_succ : upTo f (n + 1) = upTo f n ++ [f (n + 1)] := by
  simp only [upTo, List.range_succ, List.map_append, List.map_cons, List.map_nil]

theorem upTo_eq_of_append {as bs : List α} (h : upTo f n = as ++ bs) : as = upTo f as.length := by
  have hle : as.length ≤ n := by
    have hlen := congrArg List.length h
    rw [length_upTo, List.length_append] at hlen
    omega
  rw [← take_upTo hle, h, List.take_left]

/-- What comes before a member, and the member itself. -/
theorem upTo_eq_append_cons {as bs : List α} {a : α} (h : upTo f n = as ++ a :: bs) :
    as = upTo f as.length ∧ a = f (as.length + 1) := by
  have has := upTo_eq_of_append h
  rw [List.append_cons] at h
  have hnext := upTo_eq_of_append h
  rw [List.length_append, List.length_singleton, upTo_succ, ← has] at hnext
  exact ⟨has, List.singleton_inj.mp (List.append_cancel_left hnext)⟩

end UpTo

/-- Evaluates on a history: on its snapshots in turn, up to the first one on which the evaluation breaks off. -/
def along {σ ρ : Type} (evaluate : σ → Snapshot → Except Panic (ρ × σ)) (s : σ) :
    List Snapshot → Except Panic (List ρ × σ)
  | [] => .ok ([], s)
  | w :: ws =>
    match evaluate s w with
    | .error panic => .error panic
    | .ok (r, s') =>
      match along evaluate s' ws with
      | .error panic => .error panic
      | .ok (rs, t) => .ok (r :: rs, t)

section Along

variable {σ ρ : Type} {evaluate : σ → Snapshot → Except Panic (ρ × σ)}

theorem along_cons_eq_ok_iff {s t : σ} {w : Snapshot} {ws : List Snapshot} {rs : List ρ} :
    along evaluate s (w :: ws) = .ok (rs, t) ↔
      ∃ r s' rs', evaluate s w = .ok (r, s') ∧ along evaluate s' ws = .ok (rs', t) ∧
        rs = r :: rs' := by
  constructor
  · intro h
    simp only [along] at h
    split at h
    · cases h
    · rename_i r s' he
      split at h
      · cases h
      · rename_i rs' t' ha
        cases h
        exact ⟨r, s', rs', he, ha, rfl⟩
  · rintro ⟨r, s', rs', he, ha, rfl⟩
    simp only [along, he, ha]

theorem length_of_along {s t : σ} {ws : List Snapshot} {rs : List ρ}
    (h : along evaluate s ws = .ok (rs, t)) : rs.length = ws.length := by
  induction ws generalizing s rs with
  | nil =>
    cases h
    rfl
  | cons w ws ih =>
    obtain ⟨r, s', rs', -, ha, rfl⟩ := along_cons_eq_ok_iff.mp h
    simp only [List.length_cons, ih ha]

/-- A history in two parts is evaluated one part after the other. -/
theorem along_append_eq_ok_iff {s t : σ} {ws vs : List Snapshot} {rs : List ρ} :
    along evaluate s (ws ++ vs) = .ok (rs, t) ↔
      ∃ rs₁ u rs₂, along evaluate s ws = .ok (rs₁, u) ∧ along evaluate u vs = .ok (rs₂, t) ∧
        rs = rs₁ ++ rs₂ := by
  induction ws generalizing s rs with
  | nil =>
    constructor
    · intro h
      exact ⟨[], s, rs, rfl, h, rfl⟩
    · rintro ⟨rs₁, u, rs₂, h₁, h₂, rfl⟩
      cases h₁
      exact h₂
  | cons w ws ih =>
    rw [List.cons_append, along_cons_eq_ok_iff]
    constructor
    · rintro ⟨r, s', rs', he, ha, rfl⟩
      obtain ⟨rs₁, u, rs₂, h₁, h₂, rfl⟩ := ih.mp ha
      exact ⟨r :: rs₁, u, rs₂, along_cons_eq_ok_iff.mpr ⟨r, s', rs₁, he, h₁, rfl⟩, h₂, rfl⟩
    · rintro ⟨rs₁, u, rs₂, h₁, h₂, rfl⟩
      obtain ⟨r, s', rs', he, ha, rfl⟩ := along_cons_eq_ok_iff.mp h₁
      exact ⟨r, s', rs' ++ rs₂, he, ih.mpr ⟨rs', u, rs₂, ha, h₂, rfl⟩, rfl⟩

/-- The last snapshot is evaluated after all others. -/
theorem along_upTo_succ_iff {s t : σ} {w : ℕ → Snapshot} {R : ℕ → ρ} {n : ℕ} :
    along evaluate s (upTo w (n + 1)) = .ok (upTo R (n + 1), t) ↔
      ∃ u, along evaluate s (upTo w n) = .ok (upTo R n, u) ∧
        evaluate u (w (n + 1)) = .ok (R (n + 1), t) := by
  rw [upTo_succ, upTo_succ, along_append_eq_ok_iff]
  constructor
  · rintro ⟨rs₁, u, rs₂, h₁, h₂, hrs⟩
    obtain ⟨r, t', rs', he, ha, rfl⟩ := along_cons_eq_ok_iff.mp h₂
    cases ha
    obtain ⟨rfl, hr⟩ := List.append_inj' hrs rfl
    obtain rfl := List.singleton_inj.mp hr
    exact ⟨u, h₁, he⟩
  · rintro ⟨u, h, he⟩
    exact ⟨upTo R n, u, [R (n + 1)], h, along_cons_eq_ok_iff.mpr ⟨_, _, [], he, rfl, rfl⟩, rfl⟩

/-- The first part of a history is evaluated alike, whatever comes after it. -/
theorem along_take {s t : σ} {ws : List Snapshot} {rs : List ρ}
    (h : along evaluate s ws = .ok (rs, t)) (n : Nat) :
    ∃ u, along evaluate s (ws.take n) = .ok (rs.take n, u) := by
  induction ws generalizing s rs n with
  | nil =>
    cases h
    exact ⟨t, by simp only [List.take_nil, along]⟩
  | cons w ws ih =>
    obtain ⟨r, s', rs', he, ha, rfl⟩ := along_cons_eq_ok_iff.mp h
    cases n with
    | zero => exact ⟨s, rfl⟩
    | succ n =>
      obtain ⟨u, hu⟩ := ih ha n
      exact ⟨u, along_cons_eq_ok_iff.mpr ⟨r, s', rs'.take n, he, hu, rfl⟩⟩

/-- What every evaluation keeps and lets go on holds after each history. -/
theorem along_of_kept {kept : σ → Prop}
    (hstep : ∀ s w, kept s → ∃ r s', evaluate s w = .ok (r, s') ∧ kept s') {s : σ} (hs : kept s)
    (ws : List Snapshot) : ∃ rs t, along evaluate s ws = .ok (rs, t) ∧ kept t := by
  induction ws generalizing s with
  | nil => exact ⟨[], s, rfl, hs⟩
  | cons w ws ih =>
    obtain ⟨r, s', he, hs'⟩ := hstep s w hs
    obtain ⟨rs, t, ha, ht⟩ := ih hs'
    exact ⟨r :: rs, t, along_cons_eq_ok_iff.mpr ⟨r, s', rs, he, ha, rfl⟩, ht⟩

end Along

namespace Predicate

/-- The predicate reaches a verdict on every snapshot, and has a name. -/
structure IsTotal (p : Predicate) : Prop where
  judges : ∀ w, ∃ v, p.judge w = .ok v
  named : ∃ name, p.name = .ok name

theorem isTotal_total (name : String) (judge : Snapshot → Verdict) : (total name judge).IsTotal :=
  ⟨fun w => ⟨judge w, rfl⟩, name, rfl⟩

/-- The predicate reports a pass on the snapshot. -/
def Passes (p : Predicate) (w : Snapshot) : Prop := ∃ v, p.judge w = .ok v ∧ v.status = .passed

theorem answer_eq_ok_iff {p : Predicate} {w : Snapshot} {v : Verdict} {name : String} :
    p.answer w = .ok (v, name) ↔ p.judge w = .ok v ∧ p.name = .ok name := by
  unfold answer
  cases p.judge w <;> cases p.name <;> simp [Except.map]

theorem answer_eq_error_iff {p : Predicate} {w : Snapshot} {panic : Panic} :
    p.answer w = .error panic ↔
      p.judge w = .error panic ∨ (∃ v, p.judge w = .ok v) ∧ p.name = .error panic := by
  unfold answer
  cases p.judge w <;> cases p.name <;> simp [Except.map]

end Predicate

namespace Sequence

/-- No predicate of the sequence ever breaks off. -/
def IsTotal (s : Sequence) : Prop := ∀ p ∈ s.predicates, p.IsTotal

/-- The reports of a sequence on a history, and the sequence afterwards. -/
def history (s : Sequence) (ws : List Snapshot) : Except Panic (List SequenceReport × Sequence) :=
  along evaluate s ws

/-- The name of the active predicate, if there is one. -/
def activeName (s : Sequence) : Except Panic (Option String) :=
  match s.waiting with
  | [] => .ok none
  | active :: _ => active.name.map some

theorem predicates_advanced (s : Sequence) : s.advanced.predicates = s.predicates := by
  rw [predicates, predicates, advanced, List.append_assoc, List.take_append_drop]

theorem cursor_advanced {s : Sequence} {p : Predicate} {next : List Predicate}
    (h : s.waiting = p :: next) : s.advanced.cursor = s.cursor + 1 := by
  rw [cursor, cursor, advanced, h, List.length_append]
  rfl

theorem waiting_advanced {s : Sequence} {p : Predicate} {next : List Predicate}
    (h : s.waiting = p :: next) : s.advanced.waiting = next := by
  rw [advanced, h]
  rfl

theorem activeName_of_nil {s : Sequence} (h : s.waiting = []) : s.activeName = .ok none := by
  rw [activeName, h]

theorem activeName_of_cons {s : Sequence} {p : Predicate} {next : List Predicate}
    (h : s.waiting = p :: next) : s.activeName = p.name.map some := by
  rw [activeName, h]

theorem activeName_eq_error_iff {s : Sequence} {panic : Panic} :
    s.activeName = .error panic ↔ ∃ p next, s.waiting = p :: next ∧ p.name = .error panic := by
  cases hwaiting : s.waiting with
  | nil => simp only [activeName_of_nil hwaiting, reduceCtorEq, false_and, exists_false]
  | cons p next =>
    rw [activeName_of_cons hwaiting]
    constructor
    · intro h
      refine ⟨p, next, rfl, ?_⟩
      cases hname : p.name with
      | error found =>
        rw [hname] at h
        cases h
        rfl
      | ok name =>
        rw [hname] at h
        cases h
    · rintro ⟨_, _, ⟨⟩, hname⟩
      rw [hname]
      rfl

section Step

variable {s s' : Sequence} {w : Snapshot} {r : SequenceReport} {p : Predicate} {next : List Predicate}
  {v : Verdict} {name : String} {panic : Panic}

theorem step_of_nil (h : s.waiting = []) : s.step w = (.ok (s.report .passed none none), s) := by
  rw [step, h]

theorem step_of_answer_error (h : s.waiting = p :: next) (hanswer : p.answer w = .error panic) :
    s.step w = (.error panic, s) := by
  rw [step, h]
  dsimp only
  rw [hanswer]

theorem step_of_not_passed (h : s.waiting = p :: next) (hanswer : p.answer w = .ok (v, name))
    (hv : v.status ≠ .passed) : s.step w = (.ok (s.report v.status (some name) v.detail), s) := by
  rw [step, h]
  dsimp only
  rw [hanswer]
  dsimp only
  split
  · rename_i hpassed
    exact absurd hpassed hv
  · rfl

/-- A pass is reported with the name of the predicate that is active by then. -/
theorem step_of_passed (h : s.waiting = p :: next) (hanswer : p.answer w = .ok (v, name))
    (hv : v.status = .passed) :
    s.step w =
      (s.advanced.activeName.map fun active =>
        if next = [] then s.advanced.report .passed active v.detail
        else s.advanced.report .pending active none, s.advanced) := by
  have hnext := waiting_advanced h
  rw [step, h]
  dsimp only
  rw [hanswer]
  dsimp only
  rw [hv]
  cases next with
  | nil =>
    rw [activeName_of_nil hnext]
    rfl
  | cons q later =>
    rw [activeName_of_cons hnext]
    dsimp only
    cases q.name with
    | error panic => rfl
    | ok title => simp only [Except.map, if_neg (List.cons_ne_nil q later)]

/-- What a step does that comes to a report: nothing once all predicates have passed, else it depends on the
verdict of the active predicate alone. -/
theorem step_cases (h : s.step w = (.ok r, s')) :
    (s.waiting = [] ∧ s' = s ∧ r = s.report .passed none none) ∨
    (∃ p next v, s.waiting = p :: next ∧ p.judge w = .ok v ∧ v.status = .passed ∧ s' = s.advanced ∧
      s'.activeName = .ok r.predicate ∧
      r = if next = [] then s'.report .passed r.predicate v.detail
        else s'.report .pending r.predicate none) ∨
    (∃ p next v, s.waiting = p :: next ∧ p.judge w = .ok v ∧ v.status ≠ .passed ∧ s' = s ∧
      s'.activeName = .ok r.predicate ∧ r = s'.report v.status r.predicate v.detail) := by
  cases hwaiting : s.waiting with
  | nil =>
    cases h.symm.trans (step_of_nil hwaiting)
    exact Or.inl ⟨rfl, rfl, rfl⟩
  | cons p next =>
    cases hanswer : p.answer w with
    | error panic => cases h.symm.trans (step_of_answer_error hwaiting hanswer)
    | ok found =>
      obtain ⟨v, name⟩ := found
      obtain ⟨hjudge, hname⟩ := Predicate.answer_eq_ok_iff.mp hanswer
      by_cases hv : v.status = .passed
      · obtain ⟨hr, rfl⟩ := Prod.mk.inj ((step_of_passed hwaiting hanswer hv).symm.trans h)
        obtain ⟨active, hactive, rfl⟩ := map_eq_ok_iff.mp hr
        refine Or.inr (Or.inl ⟨p, next, v, rfl, hjudge, hv, rfl, ?_⟩)
        split
        · exact ⟨hactive, rfl⟩
        · exact ⟨hactive, rfl⟩
      · cases h.symm.trans (step_of_not_passed hwaiting hanswer hv)
        refine Or.inr (Or.inr ⟨p, next, v, rfl, hjudge, hv, rfl, ?_, rfl⟩)
        rw [activeName_of_cons hwaiting, hname]
        rfl

/-- How a step breaks off. The active predicate does, in its judgement or when it is asked for its name, and leaves
the sequence as it was; or it passes, and the next one does when it is asked for its name. -/
theorem step_eq_error_iff : s.step w = (.error panic, s') ↔
    ∃ p ∈ s.waiting.head?, (p.answer w = .error panic ∧ s' = s) ∨
      ((∃ v name, p.answer w = .ok (v, name) ∧ v.status = .passed) ∧
        s.advanced.activeName = .error panic ∧ s' = s.advanced) := by
  cases hwaiting : s.waiting with
  | nil =>
    rw [step_of_nil hwaiting]
    simp only [Prod.mk.injEq, reduceCtorEq, false_and, List.head?_nil, Option.mem_def, exists_false]
  | cons p next =>
    simp only [List.head?_cons, Option.mem_def, Option.some.injEq, exists_eq_left']
    cases hanswer : p.answer w with
    | error found =>
      rw [step_of_answer_error hwaiting hanswer]
      simp only [Prod.mk.injEq, Except.error.injEq, reduceCtorEq, false_and, exists_false, or_false, eq_comm]
    | ok found =>
      obtain ⟨v, name⟩ := found
      by_cases hv : v.status = .passed
      · rw [step_of_passed hwaiting hanswer hv]
        cases s.advanced.activeName <;> simp [Except.map, hv, eq_comm]
      · rw [step_of_not_passed hwaiting hanswer hv]
        simp [hv]

end Step

theorem evaluate_eq_ok_iff {s s' : Sequence} {w : Snapshot} {r : SequenceReport} :
    s.evaluate w = .ok (r, s') ↔ s.attempt w = (.ok r, s') := by
  unfold evaluate
  rcases s.attempt w with ⟨_ | _, _⟩ <;> simp

theorem evaluate_eq_error_iff {s : Sequence} {w : Snapshot} {panic : Panic} :
    s.evaluate w = .error panic ↔ ∃ s', s.attempt w = (.error panic, s') := by
  unfold evaluate
  rcases s.attempt w with ⟨_ | _, _⟩ <;> simp

theorem consume_eq_error_iff {s s' : Sequence} {w : Snapshot} {panic : Panic} :
    s.consume w = (.error panic, s') ↔ s.step w = (.error panic, s') := by
  unfold consume
  rcases s.step w with ⟨_ | _, _⟩ <;> simp

theorem consume_eq_ok_iff {s s' : Sequence} {w : Snapshot} {r : SequenceReport} :
    s.consume w = (.ok r, s') ↔
      ∃ t, s.step w = (.ok r, t) ∧ s' = { t with last := some (w.tick, r) } := by
  unfold consume
  rcases s.step w with ⟨panic | found, t⟩
  · simp only [Prod.mk.injEq, reduceCtorEq, false_and, exists_false]
  · simp only [Prod.mk.injEq, Except.ok.injEq]
    constructor
    · rintro ⟨rfl, rfl⟩
      exact ⟨t, ⟨rfl, rfl⟩, rfl⟩
    · rintro ⟨_, ⟨rfl, rfl⟩, rfl⟩
      exact ⟨rfl, rfl⟩

/-- An attempt repeats the last report on a snapshot with the last number, and takes a step on any other. -/
theorem attempt_cases (s : Sequence) (w : Snapshot) :
    (∃ r, s.last = some (w.tick, r) ∧ s.attempt w = (.ok r, s)) ∨
    ((∀ r, s.last ≠ some (w.tick, r)) ∧ s.attempt w = s.consume w) := by
  unfold attempt
  cases hlast : s.last with
  | none => exact Or.inr ⟨fun _ h => (nomatch h), rfl⟩
  | some kept =>
    obtain ⟨tick, report⟩ := kept
    by_cases htick : tick = w.tick
    · subst htick
      exact Or.inl ⟨report, rfl, if_pos rfl⟩
    · refine Or.inr ⟨?_, if_neg htick⟩
      intro r h
      exact htick (congrArg Prod.fst (Option.some.inj h))

/-- Only a snapshot with a new number is put to the active predicate. -/
theorem attempt_eq_error_iff {s s' : Sequence} {w : Snapshot} {panic : Panic} :
    s.attempt w = (.error panic, s') ↔ (∀ r, s.last ≠ some (w.tick, r)) ∧ s.step w = (.error panic, s') := by
  obtain ⟨r, hlast, hrepeat⟩ | ⟨hnew, hconsume⟩ := s.attempt_cases w
  · rw [hrepeat]
    constructor
    · intro h
      cases h
    · rintro ⟨hnew, -⟩
      exact absurd hlast (hnew r)
  · rw [hconsume, consume_eq_error_iff]
    exact (and_iff_right hnew).symm

/-- What an evaluation does: it repeats the last report on a snapshot with the last number, and takes
a step on any other. -/
theorem evaluate_cases {s s' : Sequence} {w : Snapshot} {r : SequenceReport}
    (h : s.evaluate w = .ok (r, s')) :
    (s.last = some (w.tick, r) ∧ s' = s) ∨
    ((∀ r', s.last ≠ some (w.tick, r')) ∧
      ∃ t, s.step w = (.ok r, t) ∧ s' = { t with last := some (w.tick, r) }) := by
  have hattempt := evaluate_eq_ok_iff.mp h
  obtain ⟨r', hlast, hrepeat⟩ | ⟨hnew, hstep⟩ := s.attempt_cases w
  · cases hrepeat.symm.trans hattempt
    exact Or.inl ⟨hlast, rfl⟩
  · exact Or.inr ⟨hnew, consume_eq_ok_iff.mp (hstep.symm.trans hattempt)⟩

theorem evaluate_of_last {s : Sequence} {w : Snapshot} {r : SequenceReport}
    (h : s.last = some (w.tick, r)) : s.evaluate w = .ok (r, s) := by
  rw [evaluate_eq_ok_iff, attempt, h]
  exact if_pos rfl

theorem last_of_evaluate {s s' : Sequence} {w : Snapshot} {r : SequenceReport}
    (h : s.evaluate w = .ok (r, s')) : s'.last = some (w.tick, r) := by
  obtain ⟨hlast, rfl⟩ | ⟨-, t, -, rfl⟩ := evaluate_cases h
  · exact hlast
  · rfl

theorem predicates_of_step {s s' : Sequence} {w : Snapshot} {r : SequenceReport}
    (h : s.step w = (.ok r, s')) : s'.predicates = s.predicates := by
  obtain ⟨-, rfl, -⟩ | ⟨p, next, v, -, -, -, rfl, -⟩ | ⟨p, next, v, -, -, -, rfl, -⟩ := step_cases h
  · rfl
  · exact s.predicates_advanced
  · rfl

theorem predicates_of_evaluate {s s' : Sequence} {w : Snapshot} {r : SequenceReport}
    (h : s.evaluate w = .ok (r, s')) : s'.predicates = s.predicates := by
  obtain ⟨-, rfl⟩ | ⟨-, t, ht, rfl⟩ := evaluate_cases h
  · rfl
  · exact (predicates_of_step ht : t.predicates = s.predicates)

/-- The report is the one that the sequence gives of its own progress. -/
structure Reports (s : Sequence) (r : SequenceReport) : Prop where
  eq_report : r = s.report r.status r.predicate r.detail
  activeName_eq : s.activeName = .ok r.predicate
  passed_iff : r.status = .passed ↔ s.waiting = []

theorem Reports.kept {s : Sequence} {r : SequenceReport} (h : s.Reports r)
    (last : Option (ℕ × SequenceReport)) : { s with last }.Reports r :=
  ⟨h.eq_report, h.activeName_eq, h.passed_iff⟩

/-- The report that is kept for a repeated snapshot still describes the progress. -/
def KeepsReport (s : Sequence) : Prop := ∀ tick r, s.last = some (tick, r) → s.Reports r

theorem keepsReport_fresh (name : String) (ps : List Predicate) : (fresh name ps).KeepsReport :=
  fun _ _ h => nomatch h

theorem reports_of_step {s s' : Sequence} {w : Snapshot} {r : SequenceReport}
    (h : s.step w = (.ok r, s')) : s'.Reports r := by
  obtain ⟨hw, rfl, rfl⟩ | ⟨p, next, v, hw, -, -, rfl, hactive, hr⟩ |
    ⟨p, next, v, hw, -, hv, rfl, hactive, hr⟩ := step_cases h
  · exact ⟨rfl, activeName_of_nil hw, iff_of_true rfl hw⟩
  · have hnext := waiting_advanced hw
    split at hr
    · rename_i hlast
      exact ⟨hr ▸ rfl, hactive, iff_of_true (hr ▸ rfl) (hnext.trans hlast)⟩
    · rename_i hmore
      refine ⟨hr ▸ rfl, hactive, iff_of_false ?_ (hnext ▸ hmore)⟩
      rw [hr]
      exact fun h => nomatch h
  · refine ⟨hr ▸ rfl, hactive, iff_of_false ?_ ?_⟩
    · rw [hr]
      exact hv
    · rw [hw]
      exact List.cons_ne_nil p next

theorem keepsReport_of_evaluate {s s' : Sequence} {w : Snapshot} {r : SequenceReport}
    (hs : s.KeepsReport) (h : s.evaluate w = .ok (r, s')) :
    s'.KeepsReport ∧ s'.last = some (w.tick, r) := by
  obtain ⟨hl, rfl⟩ | ⟨-, t, ht, rfl⟩ := evaluate_cases h
  · exact ⟨hs, hl⟩
  · refine ⟨?_, rfl⟩
    intro tick r' hr
    cases hr
    exact (reports_of_step ht).kept _

/-- The last report on a history describes the progress that the history led to. -/
theorem reports_of_history {s t : Sequence} {ws : List Snapshot} {rs : List SequenceReport}
    (hs : s.KeepsReport) (h : s.history ws = .ok (rs, t)) : ∀ r ∈ rs.getLast?, t.Reports r := by
  induction ws generalizing s rs with
  | nil =>
    cases h
    intro r hr
    cases hr
  | cons w ws ih =>
    obtain ⟨r, s', rs', he, ha, rfl⟩ := along_cons_eq_ok_iff.mp h
    obtain ⟨hs', hl⟩ := keepsReport_of_evaluate hs he
    intro r' hr'
    cases rs' with
    | nil =>
      obtain rfl : ws = [] := List.length_eq_zero_iff.mp (length_of_along ha).symm
      cases ha
      cases hr'
      exact hs' _ _ hl
    | cons r₁ rs' =>
      rw [List.getLast?_cons_cons] at hr'
      exact ih hs' ha r' hr'

theorem predicates_of_history {s t : Sequence} {ws : List Snapshot} {rs : List SequenceReport}
    (h : s.history ws = .ok (rs, t)) : t.predicates = s.predicates := by
  induction ws generalizing s rs with
  | nil =>
    cases h
    rfl
  | cons w ws ih =>
    obtain ⟨r, s', rs', he, ha, rfl⟩ := along_cons_eq_ok_iff.mp h
    exact (ih ha).trans (predicates_of_evaluate he)

theorem step_of_isTotal {s : Sequence} (hs : s.IsTotal) (w : Snapshot) :
    ∃ r s', s.step w = (.ok r, s') := by
  cases hwaiting : s.waiting with
  | nil => exact ⟨_, _, step_of_nil hwaiting⟩
  | cons p next =>
    -- the predicates that are asked are of the sequence, so they have their verdicts and names
    have htotal : ∀ q ∈ p :: next, q.IsTotal := by
      intro q hq
      apply hs
      rw [predicates, hwaiting]
      exact List.mem_append_right s.passed hq
    obtain ⟨hp, hnext⟩ := List.forall_mem_cons.mp htotal
    obtain ⟨v, hv⟩ := hp.judges w
    obtain ⟨name, hname⟩ := hp.named
    have hanswer := Predicate.answer_eq_ok_iff.mpr ⟨hv, hname⟩
    by_cases hpassed : v.status = .passed
    · have hactive : ∃ active, s.advanced.activeName = .ok active := by
        have hwaiting' := waiting_advanced hwaiting
        cases next with
        | nil => exact ⟨none, activeName_of_nil hwaiting'⟩
        | cons q later =>
          obtain ⟨title, htitle⟩ := (hnext q List.mem_cons_self).named
          refine ⟨some title, ?_⟩
          rw [activeName_of_cons hwaiting', htitle]
          rfl
      obtain ⟨active, hactive⟩ := hactive
      have hstep := step_of_passed hwaiting hanswer hpassed
      rw [hactive] at hstep
      exact ⟨_, _, hstep⟩
    · exact ⟨_, _, step_of_not_passed hwaiting hanswer hpassed⟩

theorem evaluate_of_isTotal {s : Sequence} (hs : s.IsTotal) (w : Snapshot) :
    ∃ r s', s.evaluate w = .ok (r, s') ∧ s'.IsTotal := by
  have he : ∃ r s', s.evaluate w = .ok (r, s') := by
    simp only [evaluate_eq_ok_iff]
    obtain ⟨r, -, hrepeat⟩ | ⟨-, hstep⟩ := s.attempt_cases w
    · exact ⟨r, s, hrepeat⟩
    · obtain ⟨r, t, ht⟩ := step_of_isTotal hs w
      exact ⟨r, _, hstep.trans (consume_eq_ok_iff.mpr ⟨t, ht, rfl⟩)⟩
  obtain ⟨r, s', he⟩ := he
  refine ⟨r, s', he, ?_⟩
  unfold IsTotal
  rw [predicates_of_evaluate he]
  exact hs

theorem history_of_isTotal {s : Sequence} (hs : s.IsTotal) (ws : List Snapshot) :
    ∃ rs t, s.history ws = .ok (rs, t) := by
  obtain ⟨rs, t, h, -⟩ := along_of_kept (fun s w h => evaluate_of_isTotal h w) hs ws
  exact ⟨rs, t, h⟩

end Sequence

namespace SequenceSet

/-- No predicate of the set ever breaks off. -/
def IsTotal (s : SequenceSet) : Prop := ∀ q ∈ s.sequences, q.IsTotal

theorem isTotal_empty : IsTotal {} := by
  intro q hq
  cases hq

theorem isTotal_fresh {name : String} {ps : List Predicate} (h : ∀ p ∈ ps, p.IsTotal) :
    IsTotal ⟨[.fresh name ps]⟩ := by
  intro q hq
  obtain rfl := List.mem_singleton.mp hq
  exact h

/-- The reports of a set on a history, and the set afterwards. -/
def history (s : SequenceSet) (ws : List Snapshot) : Except Panic (List Report × SequenceSet) :=
  along evaluate s ws

theorem evaluateAll_cons_eq_ok_iff {w : Snapshot} {q : Sequence} {qs ts : List Sequence}
    {rs : List SequenceReport} :
    evaluateAll w (q :: qs) = .ok (rs, ts) ↔
      ∃ r q' rs' qs', q.evaluate w = .ok (r, q') ∧ evaluateAll w qs = .ok (rs', qs') ∧
        rs = r :: rs' ∧ ts = q' :: qs' := by
  constructor
  · intro h
    simp only [evaluateAll] at h
    split at h
    · cases h
    · rename_i r q' hq
      split at h
      · cases h
      · rename_i rs' qs' hqs
        cases h
        exact ⟨r, q', rs', qs', hq, hqs, rfl, rfl⟩
  · rintro ⟨r, q', rs', qs', hq, hqs, rfl, rfl⟩
    simp only [evaluateAll, hq, hqs]

theorem lengths_of_evaluateAll {w : Snapshot} {qs ts : List Sequence} {rs : List SequenceReport}
    (h : evaluateAll w qs = .ok (rs, ts)) : rs.length = qs.length ∧ ts.length = qs.length := by
  induction qs generalizing rs ts with
  | nil =>
    cases h
    exact ⟨rfl, rfl⟩
  | cons q qs ih =>
    obtain ⟨r, q', rs', qs', -, hqs, rfl, rfl⟩ := evaluateAll_cons_eq_ok_iff.mp h
    have hl := ih hqs
    simp only [List.length_cons, hl, and_self]

/-- Each sequence of a set is evaluated by itself. -/
theorem getElem?_of_evaluateAll {w : Snapshot} {qs ts : List Sequence} {rs : List SequenceReport}
    (h : evaluateAll w qs = .ok (rs, ts)) {i : ℕ} {q : Sequence} (hq : qs[i]? = some q) :
    ∃ r t, q.evaluate w = .ok (r, t) ∧ rs[i]? = some r ∧ ts[i]? = some t := by
  induction qs generalizing i rs ts with
  | nil => cases hq
  | cons p qs ih =>
    obtain ⟨r, t, rs, ts, he, hrest, rfl, rfl⟩ := evaluateAll_cons_eq_ok_iff.mp h
    cases i with
    | zero =>
      cases hq
      exact ⟨r, t, he, rfl, rfl⟩
    | succ i => exact ih hrest hq

theorem evaluate_eq_ok_iff {s t : SequenceSet} {w : Snapshot} {r : Report} :
    s.evaluate w = .ok (r, t) ↔
      r.tick = w.tick ∧ evaluateAll w s.sequences = .ok (r.sequences, t.sequences) := by
  unfold evaluate
  cases h : evaluateAll w s.sequences with
  | error panic => simp only [Except.map, reduceCtorEq, and_false]
  | ok found =>
    obtain ⟨rs, qs⟩ := found
    simp only [Except.map, Except.ok.injEq, Prod.mk.injEq]
    constructor
    · rintro ⟨rfl, rfl⟩
      exact ⟨rfl, rfl, rfl⟩
    · rintro ⟨htick, rfl, rfl⟩
      exact ⟨by rw [← htick], rfl⟩

theorem tick_of_evaluate {s t : SequenceSet} {w : Snapshot} {r : Report}
    (h : s.evaluate w = .ok (r, t)) : r.tick = w.tick :=
  (evaluate_eq_ok_iff.mp h).1

theorem isEmpty_of_evaluate {s t : SequenceSet} {w : Snapshot} {r : Report}
    (h : s.evaluate w = .ok (r, t)) :
    r.sequences.isEmpty = s.isEmpty ∧ t.isEmpty = s.isEmpty := by
  have hl := lengths_of_evaluateAll (evaluate_eq_ok_iff.mp h).2
  constructor <;> rw [isEmpty, Bool.eq_iff_iff] <;>
    simp only [isEmpty, List.isEmpty_iff_length_eq_zero, hl.1, hl.2]

theorem evaluateAll_of_isTotal (w : Snapshot) {qs : List Sequence} (hqs : ∀ q ∈ qs, q.IsTotal) :
    ∃ rs ts, evaluateAll w qs = .ok (rs, ts) ∧ ∀ q ∈ ts, q.IsTotal := by
  induction qs with
  | nil => exact ⟨[], [], rfl, fun q hq => nomatch hq⟩
  | cons q qs ih =>
    obtain ⟨r, q', hq, hq'⟩ := Sequence.evaluate_of_isTotal (hqs q List.mem_cons_self) w
    obtain ⟨rs, ts, hr, hts⟩ := ih fun p hp => hqs p (List.mem_cons_of_mem q hp)
    refine ⟨r :: rs, q' :: ts, evaluateAll_cons_eq_ok_iff.mpr ⟨r, q', rs, ts, hq, hr, rfl, rfl⟩, ?_⟩
    intro p hp
    obtain rfl | hp := List.mem_cons.mp hp
    · exact hq'
    · exact hts p hp

theorem evaluate_of_isTotal {s : SequenceSet} (hs : s.IsTotal) (w : Snapshot) :
    ∃ r t, s.evaluate w = .ok (r, t) ∧ t.IsTotal := by
  obtain ⟨rs, ts, h, hts⟩ := evaluateAll_of_isTotal w hs
  exact ⟨⟨w.tick, rs⟩, ⟨ts⟩, evaluate_eq_ok_iff.mpr ⟨rfl, h⟩, hts⟩

theorem history_of_isTotal {s : SequenceSet} (hs : s.IsTotal) (ws : List Snapshot) :
    ∃ rs t, s.history ws = .ok (rs, t) ∧ t.IsTotal :=
  along_of_kept (fun _ w h => evaluate_of_isTotal h w) hs ws

/-- The reports of a set on the first snapshots of a sequence, numbered alike. -/
theorem exists_history_upTo {s : SequenceSet} (hs : s.IsTotal) (w : ℕ → Snapshot) (n : ℕ) :
    ∃ R t, s.history (upTo w n) = .ok (upTo R n, t) := by
  obtain ⟨rs, t, h, -⟩ := history_of_isTotal hs (upTo w n)
  obtain ⟨R, hR, -⟩ := exists_upTo_eq {} rs
  rw [length_of_along h, length_upTo] at hR
  exact ⟨R, t, hR ▸ h⟩

end SequenceSet

end Lockstep
