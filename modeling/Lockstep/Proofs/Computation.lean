import Mathlib.Control.Basic
import Mathlib.Data.List.ProdSigma

namespace Lockstep

variable {ε α β σ : Type}

@[simp] theorem ok_bind (a : α) (f : α → Except ε β) : (Except.ok a >>= f) = f a := rfl

@[simp] theorem ok_map (a : α) (f : α → β) : (Except.ok a : Except ε α).map f = .ok (f a) := rfl

/-- A computation that came to something came through each of its parts. -/
theorem bind_eq_ok_iff {x : Except ε α} {f : α → Except ε β} {b : β} :
    x >>= f = .ok b ↔ ∃ a, x = .ok a ∧ f a = .ok b := by
  constructor
  · intro h
    cases x with
    | error => cases h
    | ok a => exact ⟨a, rfl, h⟩
  · rintro ⟨a, rfl, h⟩
    exact h

theorem map_eq_ok_iff {x : Except ε α} {f : α → β} {b : β} :
    x.map f = .ok b ↔ ∃ a, x = .ok a ∧ f a = b := by
  constructor
  · intro h
    cases x with
    | error => cases h
    | ok a => exact ⟨a, rfl, Except.ok.inj h⟩
  · rintro ⟨a, rfl, rfl⟩
    rfl

theorem foldlM_snoc (f : σ → β → Option σ) (a : σ) (steps : List β) (b : β) :
    (steps ++ [b]).foldlM f a = (steps.foldlM f a).bind (f · b) := by
  rw [List.foldlM_append]
  congr 1
  funext a
  exact bind_pure _

/-- The pair of any two entries, in the list of all pairs. -/
theorem getElem?_product (xs : List α) {ys : List β} {j : ℕ} (hj : j < ys.length) (i : ℕ) :
    (xs ×ˢ ys)[i * ys.length + j]? = xs[i]?.map fun x => (x, ys[j]) := by
  -- each entry of the first list begins with a block of pairs, as long as the second list
  induction xs generalizing i with
  | nil => rfl
  | cons x xs ih =>
    rw [List.product_cons]
    cases i with
    | zero =>
      rw [Nat.zero_mul, Nat.zero_add, List.getElem?_append_left (by rw [List.length_map]; exact hj)]
      simp [hj]
    | succ i =>
      rw [List.getElem?_append_right (by rw [List.length_map, Nat.succ_mul]; omega), List.length_map,
        List.getElem?_cons_succ, ← ih i]
      congr 1
      rw [Nat.succ_mul]
      omega

end Lockstep
