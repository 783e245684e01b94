import Lockstep.Proofs.Computation
import Lockstep.Proofs.Shared.Families

namespace Lockstep.Shared

variable {α : Type} {start : α} {script : List (Change α)} {c : Change α} {s t : Shared α} {h j k : ℕ}

namespace Change

/-- Carries out a change, where each cell begins with the value `start`. -/
def apply (start : α) (s : Shared α) : Change α → Option (Shared α)
  | update handle f => (s.read? handle).map fun _ => s.modify handle f
  | clone handle => s.clone? handle
  | fresh => some (s.insert start)

/-- What a change makes of a value, if it is made through a handle of one's own. -/
def effect (own : ℕ → Prop) [DecidablePred own] (a : α) : Change α → α
  | update handle f => if own handle then f a else a
  | clone _ | fresh => a

theorem effect_congr {own own' : ℕ → Prop} [DecidablePred own] [DecidablePred own'] (a : α)
    (hsame : ∀ h ∈ c.target?, (own h ↔ own' h)) : c.effect own a = c.effect own' a := by
  cases c with
  | update h f =>
    have hiff := hsame h rfl
    simp only [effect, hiff]
  | clone | fresh => rfl

theorem effect_of_not_own {own : ℕ → Prop} [DecidablePred own] (a : α)
    (hother : ∀ h ∈ c.target?, ¬ own h) : c.effect own a = a := by
  cases c with
  | update h f => exact if_neg (hother h rfl)
  | clone | fresh => rfl

end Change

/-- Carries out a script, on one cell with one handle on it. -/
def run (start : α) (script : List (Change α)) : Option (Shared α) :=
  script.foldlM (Change.apply start) (single start)

/-- What the changes through handles of one's own make of a value, one after the other. -/
def evolve (own : ℕ → Prop) [DecidablePred own] (start : α) (script : List (Change α)) : α :=
  script.foldl (Change.effect own) start

section Evolve

theorem evolve_snoc (own : ℕ → Prop) [DecidablePred own] (start : α) (script : List (Change α))
    (c : Change α) : evolve own start (script ++ [c]) = c.effect own (evolve own start script) := by
  rw [evolve, evolve, List.foldl_append, List.foldl_cons, List.foldl_nil]

theorem evolve_congr {own own' : ℕ → Prop} [DecidablePred own] [DecidablePred own']
    (hsame : ∀ c ∈ script, ∀ h ∈ c.target?, (own h ↔ own' h)) :
    evolve own start script = evolve own' start script := by
  apply List.foldl_ext
  intro a c hc
  exact Change.effect_congr a (hsame c hc)

theorem evolve_of_not_own {own : ℕ → Prop} [DecidablePred own]
    (hother : ∀ c ∈ script, ∀ h ∈ c.target?, ¬ own h) : evolve own start script = start := by
  induction script with
  | nil => rfl
  | cons c script ih =>
    have hfirst : c.effect own start = start :=
      Change.effect_of_not_own start (hother c List.mem_cons_self)
    rw [evolve, List.foldl_cons, hfirst]
    exact ih fun d hd => hother d (List.mem_cons_of_mem c hd)

theorem Usable.lt_of_target? (husable : Usable script) (hc : c ∈ script) (hh : h ∈ c.target?) :
    h < handleCount script := by
  obtain ⟨i, hi, rfl⟩ := List.getElem_of_mem hc
  apply Nat.lt_of_lt_of_le (husable i hi h (Change.handle?_of_target? hh))
  exact Nat.add_le_add_left (List.take_sublist i script).countP_le 1

/-- A further step does its part for the handles that were there before. -/
theorem evolve_family_snoc (husable : Usable (script ++ [c])) (hk : k < handleCount script) :
    evolve (Family (script ++ [c]) · k) start (script ++ [c]) =
      c.effect (Family script · k) (evolve (Family script · k) start script) := by
  obtain ⟨hscript, hlast⟩ := usable_snoc_iff.mp husable
  have hsame : evolve (Family (script ++ [c]) · k) start script = evolve (Family script · k) start script := by
    apply evolve_congr
    intro d hd h hh
    exact family_snoc_iff c (hscript.lt_of_target? hd hh) hk
  rw [evolve_snoc, hsame]
  apply Change.effect_congr
  intro h hh
  exact family_snoc_iff c (hlast h (Change.handle?_of_target? hh)) hk

theorem evolve_family_clone (husable : Usable (script ++ [.clone h])) :
    evolve (Family (script ++ [.clone h]) · (handleCount script)) start (script ++ [.clone h]) =
      evolve (Family script · h) start script := by
  obtain ⟨hscript, hlast⟩ := usable_snoc_iff.mp husable
  rw [evolve_snoc]
  apply evolve_congr
  intro d hd j hj
  exact family_clone_iff (hlast h rfl) (hscript.lt_of_target? hd hj)

theorem evolve_family_fresh (husable : Usable (script ++ [.fresh])) :
    evolve (Family (script ++ [.fresh]) · (handleCount script)) start (script ++ [.fresh]) = start := by
  rw [evolve_snoc]
  apply evolve_of_not_own
  intro d hd j hj
  exact not_family_fresh ((usable_snoc_iff.mp husable).1.lt_of_target? hd hj)

end Evolve

/-- What cells with handles on them have to do with the script that was carried out on them. -/
structure Reflects (start : α) (script : List (Change α)) (s : Shared α) : Prop where
  sound : s.Sound
  length : s.handles.length = handleCount script
  aliases : ∀ j < handleCount script, ∀ k < handleCount script,
    (s.handles[j]? = s.handles[k]? ↔ Family script j k)
  shows : ∀ k < handleCount script, s.read? k = some (evolve (Family script · k) start script)

theorem reflects_single (start : α) : Reflects start [] (single start) where
  sound := by
    intro cell hcell
    rw [List.mem_singleton.mp hcell]
    exact Nat.one_pos
  length := rfl
  aliases := by
    intro j hj k hk
    rw [Nat.lt_one_iff.mp hj, Nat.lt_one_iff.mp hk]
    exact iff_of_true rfl (Relation.EqvGen.refl 0)
  shows := by
    intro k hk
    rw [Nat.lt_one_iff.mp hk]
    rfl

namespace Reflects

/-- A step shows through the handles of its family, and through no others. -/
theorem read?_apply (hs : Reflects start script s) (husable : Usable (script ++ [c]))
    (happly : c.apply start s = some t) (hk : k < handleCount script) :
    t.read? k = (s.read? k).map (c.effect (Family script · k)) := by
  have hlast := (usable_snoc_iff.mp husable).2
  have hk' : k < s.handles.length := hs.length ▸ hk
  cases c with
  | update h f =>
    obtain ⟨a, -, rfl⟩ := Option.map_eq_some_iff.mp happly
    have halias := hs.aliases h (hlast h rfl) k hk
    rw [read?_modify]
    by_cases hfamily : Family script h k
    · rw [if_pos (halias.mpr hfamily)]
      congr 1
      funext b
      exact (if_pos hfamily).symm
    · rw [if_neg (mt halias.mp hfamily)]
      have hid : (fun b => (Change.update h f).effect (Family script · k) b) = id := by
        funext b
        exact if_neg hfamily
      rw [hid, Option.map_id, id]
  | clone h =>
    rw [read?_clone happly hk']
    exact Option.map_id'.symm
  | fresh =>
    cases happly
    rw [read?_insert hs.sound start hk']
    exact Option.map_id'.symm

/-- What is done through handles of other families is not seen. -/
theorem read?_apply_of_not_family (hs : Reflects start script s) (husable : Usable (script ++ [c]))
    (happly : c.apply start s = some t) (hk : k < handleCount script)
    (hother : ∀ h ∈ c.target?, ¬ Family script h k) : t.read? k = s.read? k := by
  rw [hs.read?_apply husable happly hk, hs.shows k hk, Option.map_some, Change.effect_of_not_own _ hother]

theorem read?_of_family (hs : Reflects start script s) (hj : j < handleCount script)
    (hk : k < handleCount script) (hfamily : Family script j k) : s.read? j = s.read? k :=
  read?_congr ((hs.aliases j hj k hk).mpr hfamily)

/-- The handles that were there before show what the step has made of their families. -/
theorem shows_apply (hs : Reflects start script s) (husable : Usable (script ++ [c]))
    (happly : c.apply start s = some t) (hk : k < handleCount script) :
    t.read? k = some (evolve (Family (script ++ [c]) · k) start (script ++ [c])) := by
  rw [hs.read?_apply husable happly hk, hs.shows k hk, Option.map_some, evolve_family_snoc husable hk]

theorem modify (hs : Reflects start script s) {f : α → α} (husable : Usable (script ++ [.update h f]))
    (happly : (Change.update h f).apply start s = some (s.modify h f)) :
    Reflects start (script ++ [.update h f]) (s.modify h f) where
  sound := hs.sound.modify h f
  length := by
    rw [handles_modify, hs.length, handleCount_snoc]
    rfl
  aliases := by
    intro j hj k hk
    rw [handleCount_snoc] at hj hk
    rw [handles_modify, family_snoc_iff _ hj hk]
    exact hs.aliases j hj k hk
  shows := by
    intro k hk
    rw [handleCount_snoc] at hk
    exact hs.shows_apply husable happly hk

/-- A step that makes a handle is known by the handles that name its cell, and by what it shows. -/
theorem grow (hs : Reflects start script s) (husable : Usable (script ++ [c]))
    (happly : c.apply start s = some t) (hgrows : c.grows = true) (hsound : t.Sound) {cell : ℕ}
    (hhandles : t.handles = s.handles ++ [cell])
    (hkin : ∀ j < handleCount script,
      (s.handles[j]? = some cell ↔ Family (script ++ [c]) j (handleCount script)))
    (hnew : t.read? (handleCount script) =
      some (evolve (Family (script ++ [c]) · (handleCount script)) start (script ++ [c]))) :
    Reflects start (script ++ [c]) t := by
  have hcount : handleCount (script ++ [c]) = handleCount script + 1 := by
    rw [handleCount_snoc, hgrows]
    rfl
  have hlast : t.handles[handleCount script]? = some cell := by
    rw [hhandles, ← hs.length, List.getElem?_concat_length]
  have hold (i : ℕ) (hi : i < handleCount script) : t.handles[i]? = s.handles[i]? := by
    rw [hhandles]
    exact List.getElem?_append_left (hs.length ▸ hi)
  refine ⟨hsound, ?_, ?_, ?_⟩
  · rw [hhandles, List.length_append, hs.length, hcount]
    rfl
  · intro j hj k hk
    rw [hcount] at hj hk
    -- either handle is an old one or the new one
    rcases Nat.lt_succ_iff_lt_or_eq.mp hj with hj | rfl
    · rcases Nat.lt_succ_iff_lt_or_eq.mp hk with hk | rfl
      · rw [hold j hj, hold k hk, family_snoc_iff c hj hk]
        exact hs.aliases j hj k hk
      · rw [hold j hj, hlast]
        exact hkin j hj
    · rcases Nat.lt_succ_iff_lt_or_eq.mp hk with hk | rfl
      · rw [hold k hk, hlast, family_comm, eq_comm]
        exact hkin k hk
      · exact iff_of_true rfl (Relation.EqvGen.refl _)
  · intro k hk
    rw [hcount] at hk
    rcases Nat.lt_succ_iff_lt_or_eq.mp hk with hk | rfl
    · exact hs.shows_apply husable happly hk
    · exact hnew

theorem clone (hs : Reflects start script s) (husable : Usable (script ++ [.clone h]))
    (hclone : s.clone? h = some t) : Reflects start (script ++ [.clone h]) t := by
  have hh : h < handleCount script := (usable_snoc_iff.mp husable).2 h rfl
  obtain ⟨cell, hcell, ht⟩ := clone?_eq_some_iff.mp hclone
  apply hs.grow husable hclone rfl (hs.sound.clone hclone) (congrArg Shared.handles ht)
  · intro j hj
    rw [← hcell, family_clone_iff hh hj]
    exact hs.aliases j hj h hh
  · rw [evolve_family_clone husable, ← hs.shows h hh, ← hs.length]
    exact read?_clone_length hclone

theorem insert (hs : Reflects start script s) (husable : Usable (script ++ [.fresh])) :
    Reflects start (script ++ [.fresh]) (s.insert start) := by
  apply hs.grow husable rfl rfl (hs.sound.insert start) rfl
  · intro j hj
    -- no handle names a cell that was not there
    apply iff_of_false _ (not_family_fresh hj)
    intro hcell
    exact Nat.lt_irrefl _ (hs.sound _ (List.mem_of_getElem? hcell))
  · rw [evolve_family_fresh husable, ← hs.length]
    exact read?_insert_length s start

/-- Every step of a usable script can be carried out, and keeps cells and families in step. -/
theorem exists_apply (hs : Reflects start script s) (husable : Usable (script ++ [c])) :
    ∃ t, c.apply start s = some t ∧ Reflects start (script ++ [c]) t := by
  have hlast := (usable_snoc_iff.mp husable).2
  rw [← hs.length] at hlast
  cases c with
  | update h f =>
    obtain ⟨a, ha⟩ := hs.sound.exists_read? (hlast h rfl)
    have happly : (Change.update h f).apply start s = some (s.modify h f) := by
      rw [Change.apply, ha, Option.map_some]
    exact ⟨_, happly, hs.modify husable happly⟩
  | clone h =>
    have hcell := List.getElem?_eq_getElem (hlast h rfl)
    have hclone := clone?_eq_some_iff.mpr ⟨_, hcell, rfl⟩
    exact ⟨_, hclone, hs.clone husable hclone⟩
  | fresh => exact ⟨_, rfl, hs.insert husable⟩

end Reflects

theorem exists_run (start : α) (husable : Usable script) :
    ∃ s, run start script = some s ∧ Reflects start script s := by
  induction script using List.reverseRecOn with
  | nil => exact ⟨single start, rfl, reflects_single start⟩
  | append_singleton script c ih =>
    obtain ⟨s, hrun, hs⟩ := ih (usable_snoc_iff.mp husable).1
    obtain ⟨t, happly, ht⟩ := hs.exists_apply husable
    refine ⟨t, ?_, ht⟩
    rw [run] at hrun ⊢
    rw [foldlM_snoc, hrun]
    exact happly

end Lockstep.Shared
