import Lockstep.Proofs.Shared.Handles
import Mathlib.Data.List.Induction
import Mathlib.Logic.Function.Basic
import Mathlib.Logic.Relation

/-!
Families of handles. A script makes handles, each of them afresh or as a clone of one that is there, and changes
values through them. The family of a handle is what one comes to by clones (`Shared.Family`). It is read off the
script and takes no cells. Following the clones back to the handle with which a family began decides it
(`Shared.family_iff`).
-/

namespace Lockstep.Shared

/-- What can be done with handles. A fresh handle is on a cell of its own. -/
inductive Change (α : Type) where
  | update (handle : ℕ) (f : α → α)
  | clone (handle : ℕ)
  | fresh

variable {α : Type} {script : List (Change α)} {c : Change α} {h j k : ℕ}

namespace Change

def handle? : Change α → Option ℕ
  | update handle _ | clone handle => some handle
  | fresh => none

/-- The handle through which a value is changed. -/
def target? : Change α → Option ℕ
  | update handle _ => some handle
  | clone _ | fresh => none

def grows : Change α → Bool
  | update .. => false
  | clone _ | fresh => true

theorem handle?_of_target? (ht : h ∈ c.target?) : h ∈ c.handle? := by
  cases c with
  | update => exact ht
  | clone | fresh => cases ht

end Change

/-- The handles that there are after a script, with the one that there is before it. -/
def handleCount (script : List (Change α)) : ℕ := 1 + script.countP Change.grows

/-- Each step goes through a handle that is there by then. -/
def Usable (script : List (Change α)) : Prop :=
  ∀ i (_ : i < script.length), ∀ h ∈ script[i].handle?, h < handleCount (script.take i)

instance (script : List (Change α)) : Decidable (Usable script) :=
  inferInstanceAs (Decidable (∀ i (_ : i < script.length),
    ∀ h ∈ script[i].handle?, h < handleCount (script.take i)))

/-- The script makes the handle `k` as a clone of `h`, an older one. -/
def Clones (script : List (Change α)) (h k : ℕ) : Prop :=
  ∃ earlier later, script = earlier ++ .clone h :: later ∧ h < k ∧ k = handleCount earlier

/-- One comes from the one handle to the other by clones, in either direction. -/
def Family (script : List (Change α)) : ℕ → ℕ → Prop := Relation.EqvGen (Clones script)

section Snoc

theorem handleCount_snoc (script : List (Change α)) (c : Change α) :
    handleCount (script ++ [c]) = handleCount script + c.grows.toNat := by
  rw [handleCount, handleCount, List.countP_append, List.countP_singleton]
  cases c.grows <;> rfl

theorem usable_snoc_iff :
    Usable (script ++ [c]) ↔ Usable script ∧ ∀ h ∈ c.handle?, h < handleCount script := by
  constructor
  · intro hall
    refine ⟨?_, ?_⟩
    · intro i hi h hh
      have hi' : i < (script ++ [c]).length := by
        rw [List.length_append]
        omega
      have hbound := hall i hi' h
      rw [List.getElem_append_left hi, List.take_append_of_le_length (Nat.le_of_lt hi)] at hbound
      exact hbound hh
    · intro h hh
      have hlast : script.length < (script ++ [c]).length := by
        rw [List.length_append]
        exact Nat.lt_succ_self _
      have hbound := hall script.length hlast h
      rw [List.getElem_concat_length rfl, List.take_left] at hbound
      exact hbound hh
  · rintro ⟨hscript, hlast⟩ i hi h hh
    rw [List.length_append, List.length_singleton] at hi
    rcases Nat.lt_succ_iff_lt_or_eq.mp hi with hi | rfl
    · rw [List.getElem_append_left hi] at hh
      rw [List.take_append_of_le_length (Nat.le_of_lt hi)]
      exact hscript i hi h hh
    · rw [List.getElem_concat_length rfl] at hh
      rw [List.take_left]
      exact hlast h hh

theorem clones_snoc_iff :
    Clones (script ++ [c]) h k ↔
      Clones script h k ∨ (c = .clone h ∧ h < k ∧ k = handleCount script) := by
  constructor
  · rintro ⟨earlier, later, hscript, hlt, hk⟩
    rcases List.eq_nil_or_concat later with rfl | ⟨rest, last, rfl⟩
    · obtain ⟨rfl, rfl⟩ := List.append_singleton_inj.mp hscript
      exact Or.inr ⟨rfl, hlt, hk⟩
    · rw [List.concat_eq_append, ← List.cons_append, ← List.append_assoc] at hscript
      obtain ⟨rfl, -⟩ := List.append_singleton_inj.mp hscript
      exact Or.inl ⟨earlier, rest, rfl, hlt, hk⟩
  · rintro (⟨earlier, later, rfl, hlt, hk⟩ | ⟨rfl, hlt, hk⟩)
    · refine ⟨earlier, later ++ [c], ?_, hlt, hk⟩
      rw [List.append_assoc, List.cons_append]
    · exact ⟨script, [], rfl, hlt, hk⟩

end Snoc

section Founder

/-- The handle with which the family of each handle began, after one more step. -/
def Change.trace (made : ℕ) (founder : ℕ → ℕ) : Change α → ℕ → ℕ
  | clone h => if h < made then Function.update founder made (founder h) else founder
  | update .. | fresh => founder

/-- The number of handles and the founders of their families. -/
def lineage (script : List (Change α)) : ℕ × (ℕ → ℕ) :=
  script.foldl (fun (made, founder) c => (made + c.grows.toNat, c.trace made founder)) (1, id)

def founder (script : List (Change α)) : ℕ → ℕ := (lineage script).2

theorem lineage_snoc (script : List (Change α)) (c : Change α) :
    lineage (script ++ [c]) =
      ((lineage script).1 + c.grows.toNat, c.trace (lineage script).1 (founder script)) := by
  rw [lineage, List.foldl_append]
  rfl

theorem lineage_fst (script : List (Change α)) : (lineage script).1 = handleCount script := by
  induction script using List.reverseRecOn with
  | nil => rfl
  | append_singleton script c ih => rw [lineage_snoc, handleCount_snoc, ih]

theorem founder_snoc (script : List (Change α)) (c : Change α) :
    founder (script ++ [c]) = c.trace (handleCount script) (founder script) := by
  rw [founder, lineage_snoc, lineage_fst]

/-- A step gives a founder to the handle that it makes as a clone, and to no other. -/
theorem Change.trace_cases (c : Change α) (founder : ℕ → ℕ) (made k : ℕ) :
    c.trace made founder k = founder k ∨
      ∃ h < made, c = clone h ∧ k = made ∧ c.trace made founder k = founder h := by
  cases c with
  | update | fresh => exact Or.inl rfl
  | clone h =>
    rw [trace]
    split
    · rename_i hh
      rw [Function.update_apply]
      split
      · rename_i hk
        exact Or.inr ⟨h, hh, rfl, hk, rfl⟩
      · exact Or.inl rfl
    · exact Or.inl rfl

theorem Change.trace_of_lt (c : Change α) (founder : ℕ → ℕ) {made : ℕ} (hk : k < made) :
    c.trace made founder k = founder k := by
  rcases c.trace_cases founder made k with hsame | ⟨-, -, -, rfl, -⟩
  · exact hsame
  · exact absurd hk (Nat.lt_irrefl k)

theorem Change.trace_clone (founder : ℕ → ℕ) {made : ℕ} (hh : h < made) :
    (clone h : Change α).trace made founder made = founder h := by
  rw [trace, if_pos hh, Function.update_self]

/-- A family begins with its oldest handle. -/
theorem founder_le (script : List (Change α)) (k : ℕ) : founder script k ≤ k := by
  induction script using List.reverseRecOn generalizing k with
  | nil => exact Nat.le_refl k
  | append_singleton script c ih =>
    rw [founder_snoc]
    rcases c.trace_cases (founder script) (handleCount script) k with hsame | ⟨h, hh, -, rfl, hclone⟩
    · exact hsame ▸ ih k
    · rw [hclone]
      exact Nat.le_trans (ih h) (Nat.le_of_lt hh)

/-- A handle that is yet to be made is in no family but its own. -/
theorem founder_of_le (script : List (Change α)) (hk : handleCount script ≤ k) :
    founder script k = k := by
  induction script using List.reverseRecOn with
  | nil => rfl
  | append_singleton script c ih =>
    rw [handleCount_snoc] at hk
    rw [founder_snoc]
    rcases c.trace_cases (founder script) (handleCount script) k with hsame | ⟨h, -, rfl, rfl, -⟩
    · rw [hsame]
      exact ih (Nat.le_trans (Nat.le_add_right _ _) hk)
    · exact absurd hk (Nat.not_succ_le_self _)

theorem Clones.lt (hclones : Clones script h k) : h < k := by
  obtain ⟨-, -, -, hlt, -⟩ := hclones
  exact hlt

theorem Clones.lt_handleCount (hclones : Clones script h k) : k < handleCount script := by
  obtain ⟨earlier, later, rfl, -, rfl⟩ := hclones
  rw [handleCount, handleCount, List.countP_append, List.countP_cons, Change.grows, if_pos rfl]
  omega

theorem founder_of_clones (hclones : Clones script h k) : founder script h = founder script k := by
  induction script using List.reverseRecOn with
  | nil =>
    obtain ⟨earlier, later, hscript, -⟩ := hclones
    exact absurd hscript.symm (List.append_ne_nil_of_right_ne_nil _ (List.cons_ne_nil _ _))
  | append_singleton script c ih =>
    rw [founder_snoc]
    rcases clones_snoc_iff.mp hclones with hold | ⟨rfl, hlt, rfl⟩
    · -- neither handle is the one that is made now
      have hk := hold.lt_handleCount
      rw [c.trace_of_lt _ hk, c.trace_of_lt _ (Nat.lt_trans hold.lt hk)]
      exact ih hold
    · rw [Change.trace_clone _ hlt, Change.trace_of_lt _ _ hlt]

theorem Family.snoc (hfamily : Family script j k) (c : Change α) : Family (script ++ [c]) j k := by
  apply Relation.EqvGen.mono _ _ _ hfamily
  intro h k hclones
  exact clones_snoc_iff.mpr (Or.inl hclones)

theorem family_founder (script : List (Change α)) (k : ℕ) : Family script k (founder script k) := by
  induction script using List.reverseRecOn generalizing k with
  | nil => exact Relation.EqvGen.refl k
  | append_singleton script c ih =>
    rw [founder_snoc]
    rcases c.trace_cases (founder script) (handleCount script) k with hsame | ⟨h, hh, rfl, rfl, hclone⟩
    · rw [hsame]
      exact (ih k).snoc c
    · -- from the new handle to the one that it is a clone of, and on to the founder
      have hclones := clones_snoc_iff.mpr (Or.inr ⟨rfl, hh, rfl⟩)
      rw [hclone]
      exact (Relation.EqvGen.rel _ _ hclones).symm.trans _ _ _ ((ih h).snoc _)

/-- Handles are of one family exactly if it began with the same handle. -/
theorem family_iff : Family script j k ↔ founder script j = founder script k := by
  constructor
  · intro hfamily
    induction hfamily with
    | rel h k hclones => exact founder_of_clones hclones
    | refl k => rfl
    | symm j k _ ih => exact ih.symm
    | trans i j k _ _ hij hjk => exact hij.trans hjk
  · intro hsame
    have hj := family_founder script j
    have hk := family_founder script k
    rw [hsame] at hj
    exact hj.trans _ _ _ hk.symm

end Founder

instance (script : List (Change α)) : DecidableRel (Family script) :=
  fun _ _ => decidable_of_iff' _ family_iff

section Family

theorem family_snoc_iff (c : Change α) (hj : j < handleCount script) (hk : k < handleCount script) :
    Family (script ++ [c]) j k ↔ Family script j k := by
  rw [family_iff, family_iff, founder_snoc, c.trace_of_lt _ hj, c.trace_of_lt _ hk]

theorem family_clone_iff (hh : h < handleCount script) (hj : j < handleCount script) :
    Family (script ++ [.clone h]) j (handleCount script) ↔ Family script j h := by
  rw [family_iff, family_iff, founder_snoc, Change.trace_of_lt _ _ hj, Change.trace_clone _ hh]

theorem not_family_fresh (hj : j < handleCount script) :
    ¬ Family (script ++ [.fresh]) j (handleCount script) := by
  rw [family_iff, founder_snoc]
  show founder script j ≠ founder script (handleCount script)
  rw [founder_of_le script (Nat.le_refl _)]
  exact Nat.ne_of_lt (Nat.lt_of_le_of_lt (founder_le script j) hj)

theorem family_comm : Family script j k ↔ Family script k j :=
  ⟨Relation.EqvGen.symm j k, Relation.EqvGen.symm k j⟩

end Family

end Lockstep.Shared
