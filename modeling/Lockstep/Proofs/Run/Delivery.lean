import Lockstep.Proofs.Time.Pace
import Lockstep.Run.Driver

namespace Lockstep

namespace Link

/-- From one state to another the link takes a tick and gives a snapshot, once for each snapshot of the
list in turn. -/
inductive Serves {σ : Type} (link : Link σ) (command : TickCommand) : σ → List Snapshot → σ → Prop
  | nil (s : σ) : Serves link command s [] s
  | cons {s s₁ s₂ t : σ} {w : Snapshot} {ws : List Snapshot}
      (publishes : link.publish command s = (.ok (), s₁)) (answers : link.receive s₁ = (.ok w, s₂))
      (rest : Serves link command s₂ ws t) : Serves link command s (w :: ws) t

theorem Serves.append {σ : Type} {link : Link σ} {command : TickCommand} {s t u : σ}
    {ws vs : List Snapshot} (h : link.Serves command s ws t) (h' : link.Serves command t vs u) :
    link.Serves command s (ws ++ vs) u := by
  induction h with
  | nil => exact h'
  | cons publishes answers _ ih => exact .cons publishes answers (ih h')

end Link

/-- The snapshots are numbered one after the other, the first of them next after `n`. -/
def NumberedFrom (n : ℕ) (ws : List Snapshot) : Prop :=
  ∀ (i : ℕ) (h : i < ws.length), ws[i].tick = n + i + 1

theorem numberedFrom_cons_iff {n : ℕ} {w : Snapshot} {ws : List Snapshot} :
    NumberedFrom n (w :: ws) ↔ w.tick = n + 1 ∧ NumberedFrom (n + 1) ws := by
  constructor
  · intro h
    refine ⟨h 0 (by simp), ?_⟩
    intro i hi
    have hs := h (i + 1) (by simpa using hi)
    simp only [List.getElem_cons_succ] at hs
    omega
  · rintro ⟨hw, hws⟩ i hi
    cases i with
    | zero => exact hw
    | succ i =>
      have hs := hws i (by simpa using hi)
      simp only [List.getElem_cons_succ]
      omega

namespace TickDriver

/-- Advancing delivers the snapshots of the list one after the other. -/
inductive Delivers {σ : Type} (tick : Span) : TickDriver σ → List Snapshot → TickDriver σ → Prop
  | nil (d : TickDriver σ) : Delivers tick d [] d
  | cons {d d₁ d₂ : TickDriver σ} {w : Snapshot} {ws : List Snapshot}
      (advances : d.advance tick = (.ok w, d₁)) (rest : Delivers tick d₁ ws d₂) :
      Delivers tick d (w :: ws) d₂

/-- Advances as often as given or up to the first error: the snapshots, the error, and the driver
afterwards. -/
def advanceTimes {σ : Type} (tick : Span) :
    ℕ → TickDriver σ → List Snapshot × Option LinkError × TickDriver σ
  | 0, d => ([], none, d)
  | n + 1, d =>
    match d.advance tick with
    | (.error e, d) => ([], some e, d)
    | (.ok w, d) =>
      let (ws, e, d) := advanceTimes tick n d
      (w :: ws, e, d)

theorem issue_eq_ok_iff {σ : Type} {d d' : TickDriver σ} {tick : Span} :
    d.issue tick = (.ok (), d') ↔
      ∃ s, d.link.publish (.ofSpan tick) d.state = (.ok (), s) ∧ d' = d.counted tick s := by
  unfold issue
  constructor
  · intro h
    split at h
    · cases h
    · rename_i s hp
      cases h
      exact ⟨s, hp, rfl⟩
  · rintro ⟨s, hp, rfl⟩
    rw [hp]

theorem collect_eq_ok_iff {σ : Type} {d d' : TickDriver σ} {w : Snapshot} :
    d.collect = (.ok w, d') ↔
      ∃ s, d.link.receive d.state = (.ok w, s) ∧ w.tick = d.ticks ∧ d' = { d with state := s } := by
  unfold collect
  constructor
  · intro h
    rcases hr : d.link.receive d.state with ⟨e | v, s⟩ <;> rw [hr] at h <;> dsimp only at h
    · cases h
    · split at h
      · rename_i hv
        cases h
        exact ⟨s, rfl, hv, rfl⟩
      · cases h
  · rintro ⟨s, hr, hw, rfl⟩
    simp only [hr, hw, ↓reduceIte]

theorem advance_eq_ok_iff {σ : Type} {d d' : TickDriver σ} {tick : Span} {w : Snapshot} :
    d.advance tick = (.ok w, d') ↔ ∃ s₁ s₂, d.link.publish (.ofSpan tick) d.state = (.ok (), s₁) ∧
      d.link.receive s₁ = (.ok w, s₂) ∧ w.tick = d.ticks + 1 ∧ d' = d.counted tick s₂ := by
  unfold advance
  constructor
  · intro h
    split at h
    · cases h
    · rename_i d₁ hi
      obtain ⟨s₁, hp, rfl⟩ := issue_eq_ok_iff.mp hi
      obtain ⟨s₂, hr, hw, rfl⟩ := collect_eq_ok_iff.mp h
      exact ⟨s₁, s₂, hp, hr, hw, rfl⟩
  · rintro ⟨s₁, s₂, hp, hr, hw, rfl⟩
    rw [issue_eq_ok_iff.mpr ⟨s₁, hp, rfl⟩]
    exact collect_eq_ok_iff.mpr ⟨s₂, hr, hw, rfl⟩

/-- A tick that the link takes but does not answer counts all the same. -/
theorem advance_of_unanswered {σ : Type} {d : TickDriver σ} {tick : Span} {s₁ s₂ : σ}
    {e : LinkError} (hp : d.link.publish (.ofSpan tick) d.state = (.ok (), s₁))
    (hr : d.link.receive s₁ = (.error e, s₂)) :
    d.advance tick = (.error e, d.counted tick s₂) := by
  simp only [advance, issue, hp, collect, counted, hr]

/-- The driver after an advance, whatever came of it. -/
def moved {σ : Type} (tick : Span) (d : TickDriver σ) : TickDriver σ := (d.advance tick).2

theorem collect_snd {σ : Type} (d : TickDriver σ) :
    d.collect.2 = { d with state := (d.link.receive d.state).2 } := by
  unfold collect
  rcases d.link.receive d.state with ⟨e | w, s⟩
  · rfl
  · dsimp only
    split <;> rfl

/-- A tick that is published counts, even if nothing answers it. -/
theorem moved_of_publish {σ : Type} {d : TickDriver σ} {tick : Span} {s : σ}
    (hp : d.link.publish (.ofSpan tick) d.state = (.ok (), s)) :
    d.moved tick = d.counted tick (d.link.receive s).2 := by
  rw [moved, advance, issue, hp]
  exact collect_snd (d.counted tick s)

theorem moved_of_not_publish {σ : Type} {d : TickDriver σ} {tick : Span} {e : LinkError} {s : σ}
    (hp : d.link.publish (.ofSpan tick) d.state = (.error e, s)) :
    d.moved tick = { d with state := s } := by
  rw [moved, advance, issue, hp]

theorem link_of_advance {σ : Type} {d d' : TickDriver σ} {tick : Span} {w : Snapshot}
    (h : d.advance tick = (.ok w, d')) : d'.link = d.link := by
  obtain ⟨_, _, -, -, -, rfl⟩ := advance_eq_ok_iff.mp h
  rfl

theorem ticks_of_advance {σ : Type} {d d' : TickDriver σ} {tick : Span} {w : Snapshot}
    (h : d.advance tick = (.ok w, d')) : d'.ticks = d.ticks + 1 ∧ d'.ticks = w.tick := by
  obtain ⟨_, _, -, -, hw, rfl⟩ := advance_eq_ok_iff.mp h
  exact ⟨rfl, hw.symm⟩

theorem clock_of_advance {σ : Type} {d d' : TickDriver σ} {tick : Span} {w : Snapshot}
    (h : d.advance tick = (.ok w, d')) : d'.clock = d.clock.advance tick := by
  obtain ⟨_, _, -, -, -, rfl⟩ := advance_eq_ok_iff.mp h
  rfl

namespace Delivers

variable {σ : Type} {tick : Span} {d d' : TickDriver σ} {ws : List Snapshot}

theorem link (h : Delivers tick d ws d') : d'.link = d.link := by
  induction h with
  | nil => rfl
  | cons advances _ ih => exact ih.trans (link_of_advance advances)

theorem ticks (h : Delivers tick d ws d') : d'.ticks = d.ticks + ws.length := by
  induction h with
  | nil => rfl
  | cons advances _ ih =>
    rw [ih, (ticks_of_advance advances).1, List.length_cons]
    omega

theorem clock_eq (h : Delivers tick d ws d') :
    d'.clock = (·.advance tick)^[ws.length] d.clock := by
  induction h with
  | nil => rfl
  | cons advances _ ih => rw [ih, clock_of_advance advances, List.length_cons, Function.iterate_succ_apply]

theorem advanceTimes_eq (h : Delivers tick d ws d') (n : ℕ) :
    d.advanceTimes tick (ws.length + n) =
      (ws ++ (d'.advanceTimes tick n).1, (d'.advanceTimes tick n).2) := by
  induction h with
  | nil => rw [List.length_nil, Nat.zero_add, List.nil_append]
  | @cons _ d₁ _ _ ws advances _ ih =>
    rw [List.length_cons, Nat.add_right_comm, TickDriver.advanceTimes, advances]
    dsimp only
    rw [ih]
    rfl

theorem clock (h : Delivers tick d ws d')
    (hroom : d.clock.count.toNat + ws.length * tick.nanos < 2 ^ 64) :
    d'.clock.count.toNat = d.clock.count.toNat + ws.length * tick.nanos := by
  rw [h.clock_eq]
  exact Clock.toNat_count_iterate hroom

/-- What was delivered is what the link served. -/
theorem serves (h : Delivers tick d ws d') :
    d.link.Serves (.ofSpan tick) d.state ws d'.state := by
  induction h with
  | nil => exact .nil _
  | cons advances _ ih =>
    obtain ⟨s₁, s₂, hp, hr, -, rfl⟩ := advance_eq_ok_iff.mp advances
    exact .cons hp hr ih

theorem append {d'' : TickDriver σ} {vs : List Snapshot} (h : Delivers tick d ws d')
    (h' : Delivers tick d' vs d'') : Delivers tick d (ws ++ vs) d'' := by
  induction h with
  | nil => exact h'
  | cons advances _ ih => exact .cons advances (ih h')

/-- What is delivered comes in two parts, wherever it is cut. -/
theorem split {vs : List Snapshot} (h : Delivers tick d (ws ++ vs) d') :
    ∃ u, Delivers tick d ws u ∧ Delivers tick u vs d' := by
  induction ws generalizing d with
  | nil => exact ⟨d, .nil d, h⟩
  | cons w ws ih =>
    cases h with
    | cons advances rest =>
      obtain ⟨u, hu, hv⟩ := ih rest
      exact ⟨u, .cons advances hu, hv⟩

end Delivers

/-- A driver delivers what its link serves under the numbers that come next. -/
theorem delivers_of_serves {σ : Type} {tick : Span} {d : TickDriver σ} {ws : List Snapshot} {t : σ}
    (hserves : d.link.Serves (.ofSpan tick) d.state ws t) (hws : NumberedFrom d.ticks ws) :
    ∃ d', Delivers tick d ws d' ∧ d'.state = t := by
  induction ws generalizing d with
  | nil =>
    cases hserves
    exact ⟨d, .nil d, rfl⟩
  | cons w ws ih =>
    obtain ⟨hw, hws⟩ := numberedFrom_cons_iff.mp hws
    cases hserves with
    -- the driver counts the tick, and then the number of the snapshot is the right one
    | @cons _ s₁ s₂ _ _ _ publishes answers rest =>
      obtain ⟨d', hd', ht⟩ := ih (d := d.counted tick s₂) rest hws
      exact ⟨d', .cons (advance_eq_ok_iff.mpr ⟨s₁, s₂, publishes, answers, hw, rfl⟩) hd', ht⟩

end TickDriver

end Lockstep
