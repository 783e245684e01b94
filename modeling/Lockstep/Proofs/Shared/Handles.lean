import Lockstep.Shared
import Mathlib.Data.List.Basic

namespace Lockstep.Shared

variable {α : Type} {s t : Shared α} {h k : ℕ}

/-- The cell of each handle is there. -/
def Sound (s : Shared α) : Prop := ∀ cell ∈ s.handles, cell < s.cells.length

theorem read?_congr (hsame : s.handles[h]? = s.handles[k]?) : s.read? h = s.read? k := by
  rw [read?, read?, hsame]

theorem Sound.exists_read? (hs : s.Sound) (hk : k < s.handles.length) : ∃ a, s.read? k = some a := by
  have hcell : s.handles[k] < s.cells.length := hs _ (List.getElem_mem hk)
  refine ⟨s.cells[s.handles[k]], ?_⟩
  rw [read?, List.getElem?_eq_getElem hk, Option.bind_some, List.getElem?_eq_getElem hcell]

section Modify

theorem handles_modify (s : Shared α) (h : ℕ) (f : α → α) : (s.modify h f).handles = s.handles := by
  unfold modify
  split <;> rfl

theorem modify_eq {cell : ℕ} (hcell : s.handles[h]? = some cell) (f : α → α) :
    s.modify h f = { s with cells := s.cells.modify cell f } := by
  rw [modify, hcell]

/-- A change shows through the handles on the cell that it is made to, and through no others. -/
theorem read?_modify (s : Shared α) (h k : ℕ) (f : α → α) :
    (s.modify h f).read? k =
      if s.handles[h]? = s.handles[k]? then (s.read? k).map f else s.read? k := by
  cases hh : s.handles[h]? with
  | none =>
    have hsame : s.modify h f = s := by rw [modify, hh]
    rw [hsame]
    split
    · rename_i hk
      rw [read?, ← hk]
      rfl
    · rfl
  | some cell =>
    rw [modify_eq hh, read?, read?]
    cases s.handles[k]? with
    | none => rfl
    | some other =>
      rw [Option.bind_some, Option.bind_some, List.getElem?_modify]
      by_cases hcell : cell = other
      · simp only [hcell, ↓reduceIte]
        rfl
      · simp only [Option.some.injEq, hcell, ↓reduceIte]
        exact Option.map_id'

/-- Only what the change makes of the value that is there matters. -/
theorem modify_congr {a : α} (ha : s.read? h = some a) {f g : α → α} (hfg : f a = g a) :
    s.modify h f = s.modify h g := by
  obtain ⟨cell, hcell, hvalue⟩ := Option.bind_eq_some_iff.mp ha
  rw [modify_eq hcell, modify_eq hcell]
  congr 1
  apply List.ext_getElem?
  intro i
  rw [List.getElem?_modify, List.getElem?_modify]
  by_cases hi : cell = i
  · rw [← hi, hvalue]
    simp only [↓reduceIte, Option.map_eq_map, Option.map_some, hfg]
  · simp only [hi, ↓reduceIte]

theorem modify_id (s : Shared α) (h : ℕ) : s.modify h id = s := by
  cases hh : s.handles[h]? with
  | none => rw [modify, hh]
  | some cell => rw [modify_eq hh, List.modify_id]

theorem modify_of_fixed {a : α} (ha : s.read? h = some a) {f : α → α} (hf : f a = a) : s.modify h f = s := by
  have hid : s.modify h f = s.modify h id := modify_congr ha hf
  rw [hid, modify_id]

theorem Sound.modify (hs : s.Sound) (h : ℕ) (f : α → α) : (s.modify h f).Sound := by
  cases hh : s.handles[h]? with
  | none =>
    rw [Shared.modify, hh]
    exact hs
  | some cell =>
    rw [modify_eq hh]
    intro other hother
    rw [List.length_modify]
    exact hs other hother

end Modify

section Clone

theorem clone?_eq_some_iff :
    s.clone? h = some t ↔ ∃ cell, s.handles[h]? = some cell ∧ t = { s with handles := s.handles ++ [cell] } := by
  rw [clone?, Option.map_eq_some_iff]
  simp only [eq_comm]

theorem Sound.clone (hs : s.Sound) (hclone : s.clone? h = some t) : t.Sound := by
  obtain ⟨cell, hcell, rfl⟩ := clone?_eq_some_iff.mp hclone
  intro other hother
  rcases List.mem_append.mp hother with hold | hnew
  · exact hs other hold
  · rw [List.mem_singleton.mp hnew]
    exact hs cell (List.mem_of_getElem? hcell)

theorem read?_clone (hclone : s.clone? h = some t) (hk : k < s.handles.length) :
    t.read? k = s.read? k := by
  obtain ⟨cell, hcell, rfl⟩ := clone?_eq_some_iff.mp hclone
  rw [read?, read?, List.getElem?_append_left hk]

theorem read?_clone_length (hclone : s.clone? h = some t) :
    t.read? s.handles.length = s.read? h := by
  obtain ⟨cell, hcell, rfl⟩ := clone?_eq_some_iff.mp hclone
  rw [read?, read?, List.getElem?_concat_length, hcell]

end Clone

section Insert

theorem Sound.insert (hs : s.Sound) (a : α) : (s.insert a).Sound := by
  intro cell hcell
  rw [Shared.insert, List.length_append, List.length_singleton]
  rcases List.mem_append.mp hcell with hold | hnew
  · exact Nat.lt_succ_of_lt (hs cell hold)
  · rw [List.mem_singleton.mp hnew]
    exact Nat.lt_succ_self _

theorem read?_insert (hs : s.Sound) (a : α) (hk : k < s.handles.length) :
    (s.insert a).read? k = s.read? k := by
  have hcell : s.handles[k] < s.cells.length := hs _ (List.getElem_mem hk)
  rw [read?, read?, Shared.insert, List.getElem?_append_left hk, List.getElem?_eq_getElem hk,
    Option.bind_some, Option.bind_some, List.getElem?_append_left hcell]

theorem read?_insert_length (s : Shared α) (a : α) :
    (s.insert a).read? s.handles.length = some a := by
  rw [read?, Shared.insert, List.getElem?_concat_length, Option.bind_some, List.getElem?_concat_length]

end Insert

end Lockstep.Shared
