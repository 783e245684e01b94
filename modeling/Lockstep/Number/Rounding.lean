namespace Lockstep.Rounding

/-- The integer nearest to `num / den`; of two that are equally near, the even one. -/
def halfEven (num den : Nat) : Nat :=
  let q := num / den
  let r := num % den
  if 2 * r < den then q
  else if den < 2 * r then q + 1
  else q + q % 2

/-- The integer nearest to `num / den`; of two that are equally near, the larger one. -/
def halfUp (num den : Nat) : Nat :=
  (2 * num + den) / (2 * den)

theorem two_mul_halfEven_le (num : Nat) {den : Nat} (h : 0 < den) :
    2 * (halfEven num den * den) ≤ 2 * num + den := by
  have e := Nat.div_add_mod num den
  have l := Nat.mod_lt num h
  have p := Nat.mod_two_eq_zero_or_one (num / den)
  have c := Nat.mul_comm den (num / den)
  simp only [halfEven]
  split
  · omega
  · split
    · rw [Nat.add_mul]; omega
    · rcases p with p | p <;> rw [p, Nat.add_mul] <;> omega

end Lockstep.Rounding
