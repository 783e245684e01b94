import Lockstep.Number.Shortest
import Lockstep.Proofs.Number.Nearest

namespace Lockstep.Shortest

/-- A number in the interval. -/
structure Interval.Contains (i : Interval) (r : ℚ) : Prop where
  low : i.low ≤ r * i.den
  high : r * i.den ≤ i.high
  inside : i.closed = false → i.low < r * i.den ∧ r * i.den < i.high

theorem Interval.contains_of_holds {i : Interval} {q : ℕ} (h : i.holds (q * i.den) = true) :
    i.Contains q := by
  unfold Interval.holds at h
  split at h
  · rename_i hclosed
    rw [Bool.and_eq_true, decide_eq_true_iff, decide_eq_true_iff] at h
    refine ⟨by exact_mod_cast h.1, by exact_mod_cast h.2, fun hopen => ?_⟩
    rw [hclosed] at hopen
    cases hopen
  · rw [Bool.and_eq_true, decide_eq_true_iff, decide_eq_true_iff] at h
    exact ⟨by exact_mod_cast h.1.le, by exact_mod_cast h.2.le,
      fun _ => ⟨by exact_mod_cast h.1, by exact_mod_cast h.2⟩⟩

theorem Interval.holds_of_lt {i : Interval} {n : ℕ} (hlow : i.low < n) (hhigh : n < i.high) :
    i.holds n = true := by
  unfold Interval.holds
  split
  · rw [decide_eq_true hlow.le, decide_eq_true hhigh.le]
    rfl
  · rw [decide_eq_true hlow, decide_eq_true hhigh]
    rfl

theorem Interval.contains_inUnits {i : Interval} {k : ℤ} {r : ℚ} (h : (i.inUnits k).Contains r) :
    i.Contains (r * 10 ^ k) := by
  have hpow : (0 : ℚ) < ((10 ^ k.natAbs : ℕ) : ℚ) := by positivity
  unfold Interval.inUnits at h
  split at h
  · rename_i hk
    obtain ⟨hlow, hhigh, hinside⟩ := h
    simp only [tenPow_eq, Nat.cast_mul] at hlow hhigh hinside
    have hscale : r * 10 ^ k * i.den = r * i.den / ((10 ^ k.natAbs : ℕ) : ℚ) := by
      rw [zpow_of_neg hk]
      ring
    constructor
    · rwa [hscale, le_div_iff₀ hpow]
    · rwa [hscale, div_le_iff₀ hpow]
    · rwa [hscale, lt_div_iff₀ hpow, div_lt_iff₀ hpow]
  · rename_i hk
    obtain ⟨hlow, hhigh, hinside⟩ := h
    have hscale : r * 10 ^ k * i.den = r * ((i.den * tenPow k.natAbs : ℕ) : ℚ) := by
      rw [zpow_of_not_neg hk, tenPow_eq, Nat.cast_mul]
      ring
    constructor
    · rwa [hscale]
    · rwa [hscale]
    · rwa [hscale]

theorem Interval.contains_of_candidate? {tie : Tie} {i : Interval} {d : ℕ}
    (h : i.candidate? tie = some d) : i.Contains d := by
  have hkey : i.holds (d * i.den) = true := by
    unfold Interval.candidate? at h
    dsimp only at h
    split at h
    · rename_i hbelow habove
      have hparity : i.value / i.den % 2 = 0 ∨ i.value / i.den % 2 = 1 := by omega
      split at h
      · cases h
        exact hbelow
      · split at h
        · cases h
          exact habove
        · cases tie with
          | up =>
            cases h
            exact habove
          | toEven =>
            cases h
            obtain heven | hodd := hparity
            · rwa [heven]
            · rwa [hodd]
    · cases h
      assumption
    · cases h
      assumption
    · cases h
  exact contains_of_holds hkey

/-- The interval reaches further above the value than the distance of the points of a grid. -/
def Interval.Wide (i : Interval) (k : ℤ) : Prop := (i.value : ℚ) + 10 ^ k * i.den < i.high

/-- The first point above the value is then in the interval. -/
theorem Interval.candidate?_isSome (tie : Tie) {i : Interval} (hlow : i.low < i.value) (hden : 0 < i.den)
    (hwide : i.value + i.den < i.high) : (i.candidate? tie).isSome = true := by
  have habove : i.holds ((i.value / i.den + 1) * i.den) = true := by
    have hdiv := Nat.div_add_mod' i.value i.den
    have hmod := Nat.mod_lt i.value hden
    refine holds_of_lt ?_ ?_
    all_goals
      rw [Nat.add_mul, Nat.one_mul]
      omega
  unfold Interval.candidate?
  dsimp only
  rw [habove]
  cases i.holds (i.value / i.den * i.den) with
  | false => rfl
  | true =>
    dsimp only
    split
    · rfl
    · split
      · rfl
      · cases tie <;> rfl

theorem Interval.candidate?_inUnits_isSome (tie : Tie) {i : Interval} {k : ℤ} (hlow : i.low < i.value)
    (hden : 0 < i.den) (hwide : i.Wide k) : ((i.inUnits k).candidate? tie).isSome = true := by
  have hpow : 0 < 10 ^ k.natAbs := by positivity
  have hpow' : (0 : ℚ) < ((10 ^ k.natAbs : ℕ) : ℚ) := by exact_mod_cast hpow
  unfold Interval.Wide at hwide
  unfold Interval.inUnits
  split
  · rename_i hk
    refine candidate?_isSome tie ((Nat.mul_lt_mul_right hpow).mpr hlow) hden ?_
    rw [zpow_of_neg hk, inv_mul_eq_div, ← mul_lt_mul_iff_left₀ hpow', add_mul, div_mul_cancel₀ _ hpow'.ne']
      at hwide
    exact_mod_cast hwide
  · rename_i hk
    refine candidate?_isSome tie hlow (Nat.mul_pos hden hpow) ?_
    rw [zpow_of_not_neg hk, mul_comm] at hwide
    exact_mod_cast hwide

/-- The number that a decimal writes. -/
def Decimal.value (d : Decimal) : ℚ := d.digits * 10 ^ d.exponent

/-- A search that ends with a grid fine enough finds a decimal in the interval. -/
theorem search_contains (tie : Tie) {i : Interval} (hlow : i.low < i.value) (hden : 0 < i.den) (n : ℕ) {k : ℤ}
    (hwide : i.Wide (k - n)) : i.Contains (search tie i k (n + 1)).value := by
  -- a grid without a candidate cannot be the last one
  induction n generalizing k with
  | zero =>
    rw [Nat.cast_zero, sub_zero] at hwide
    obtain ⟨d, hd⟩ := Option.isSome_iff_exists.mp (Interval.candidate?_inUnits_isSome tie hlow hden hwide)
    rw [search, hd]
    exact Interval.contains_inUnits (Interval.contains_of_candidate? hd)
  | succ n ih =>
    rw [search]
    cases hd : (i.inUnits k).candidate? tie with
    | some d => exact Interval.contains_inUnits (Interval.contains_of_candidate? hd)
    | none =>
      refine ih ?_
      rwa [show k - 1 - (n : ℤ) = k - (n + 1 : ℕ) by push_cast; ring]

theorem Decimal.trim_value (d : Decimal) (fuel : ℕ) : (d.trim fuel).value = d.value := by
  induction fuel generalizing d with
  | zero => rfl
  | succ fuel ih =>
    rw [Decimal.trim]
    split
    · rename_i h
      rw [Bool.and_eq_true, beq_iff_eq] at h
      have hdigits : d.digits = d.digits / 10 * 10 := by omega
      rw [ih, Decimal.value, Decimal.value, zpow_add_one₀ (by norm_num)]
      conv_rhs => rw [hdigits]
      push_cast
      ring
    · rfl

/-- A power of ten is compared with one of two by `59 / 196 < log 2 < 28 / 93`. -/
theorem ten_zpow_le_two_zpow {g t : ℤ} (hpos : 0 ≤ t → 196 * g ≤ 59 * t) (hneg : t < 0 → 93 * g ≤ 28 * t) :
    (10 : ℚ) ^ g ≤ 2 ^ t := by
  obtain ht | ht := lt_or_ge t 0
  · refine le_of_pow_le_pow_left₀ (n := 93) (by norm_num) (by positivity) ?_
    obtain ⟨n, rfl⟩ : ∃ n : ℕ, t = -n := ⟨t.natAbs, by omega⟩
    calc ((10 : ℚ) ^ g) ^ 93 = 10 ^ (g * 93) := by rw [← zpow_natCast, ← zpow_mul]; rfl
      _ ≤ 10 ^ (28 * -(n : ℤ)) := zpow_le_zpow_right₀ (by norm_num) (by have := hneg ht; omega)
      _ = ((10 ^ 28) ^ n)⁻¹ := by rw [mul_neg, zpow_neg, zpow_mul, zpow_natCast]; rfl
      _ ≤ ((2 ^ 93) ^ n)⁻¹ := by gcongr; norm_num
      _ = (2 ^ (-(n : ℤ))) ^ 93 := by rw [zpow_neg, zpow_natCast, inv_pow, ← pow_mul, ← pow_mul, mul_comm]
  · refine le_of_pow_le_pow_left₀ (n := 196) (by norm_num) (by positivity) ?_
    obtain ⟨n, rfl⟩ := Int.eq_ofNat_of_zero_le ht
    calc ((10 : ℚ) ^ g) ^ 196 = 10 ^ (g * 196) := by rw [← zpow_natCast, ← zpow_mul]; rfl
      _ ≤ 10 ^ (59 * (n : ℤ)) := zpow_le_zpow_right₀ (by norm_num) (by have := hpos ht; omega)
      _ = (10 ^ 59) ^ n := by rw [zpow_mul, zpow_natCast]; rfl
      _ ≤ (2 ^ 196) ^ n := by gcongr; norm_num
      _ = (2 ^ (n : ℤ)) ^ 196 := by rw [zpow_natCast, ← pow_mul, ← pow_mul, mul_comm]

theorem reaches_iff (num : ℕ) {den : ℕ} (hden : 0 < den) (k : ℤ) :
    (if k < 0 then (den ≤ num * tenPow k.natAbs : Bool) else den * tenPow k.natAbs ≤ num) = true ↔
      (10 : ℚ) ^ k ≤ num / den := by
  have hpow : (0 : ℚ) < ((10 ^ k.natAbs : ℕ) : ℚ) := by positivity
  have hden' : (0 : ℚ) < den := by exact_mod_cast hden
  rw [le_div_iff₀ hden', tenPow_eq]
  split
  · rename_i hk
    rw [decide_eq_true_iff, zpow_of_neg hk, inv_mul_le_iff₀ hpow, mul_comm, ← Nat.cast_mul, Nat.cast_le]
  · rename_i hk
    rw [decide_eq_true_iff, zpow_of_not_neg hk, mul_comm, ← Nat.cast_mul, Nat.cast_le]

/-- The place of the first digit is not too high, as long as the guess for it is close. -/
theorem leadExponent_le {num den : ℕ} (hnum : 0 < num) (hden : 0 < den)
    (hlow : -10000 < (num.log2 : ℤ) - den.log2) (hhigh : (num.log2 : ℤ) - den.log2 < 10000) :
    (10 : ℚ) ^ leadExponent num den ≤ num / den := by
  have hreaches := reaches_iff num hden
  have hguess : (10 : ℚ) ^ (((num.log2 : ℤ) - den.log2 - 1) * 30103 / 100000 - 1) ≤ num / den :=
    le_trans (ten_zpow_le_two_zpow (by omega) (by omega)) (Binary64.ratio_bounds hnum hden).1.le
  have hchoice {up high here : Bool} {g : ℤ} (hup : up = true → (10 : ℚ) ^ (g + 1) ≤ num / den)
      (hhigh : high = true → (10 : ℚ) ^ (g + 2) ≤ num / den) (hhere : here = true → (10 : ℚ) ^ g ≤ num / den)
      (hbelow : (10 : ℚ) ^ (g - 1) ≤ num / den) :
      (10 : ℚ) ^ (if up then if high then g + 2 else g + 1 else if here then g else g - 1) ≤ num / den := by
    cases up with
    | true =>
      cases high with
      | true => exact hhigh rfl
      | false => exact hup rfl
    | false =>
      cases here with
      | true => exact hhere rfl
      | false => exact hbelow
  exact hchoice (hreaches _).mp (hreaches _).mp (hreaches _).mp hguess

/-- The parts of the interval in units of the float, four of which make the difference of two significands. -/
theorem around_eq (m : ℕ) (e : ℤ) :
    ∃ unit den : ℕ, 0 < unit ∧ 0 < den ∧ (unit : ℚ) = 2 ^ e * den ∧ Interval.around m e =
      { low := 4 * (m * unit) - if m == twoPow 52 && e > -1074 then unit else 2 * unit
        value := 4 * (m * unit), high := 4 * (m * unit) + 2 * unit, den := 4 * den
        closed := m % 2 == 0 } := by
  have hpow : 0 < 2 ^ e.natAbs := by positivity
  unfold Interval.around Binary64.ratio
  by_cases he : e < 0
  · refine ⟨1, twoPow e.natAbs, Nat.one_pos, hpow, ?_, ?_⟩
    · rw [zpow_of_neg he, twoPow_eq, Nat.cast_one, inv_mul_cancel₀]
      exact_mod_cast hpow.ne'
    · simp only [if_pos he, Nat.mul_one]
  · refine ⟨twoPow e.natAbs, 1, hpow, Nat.one_pos, ?_, ?_⟩
    · rw [zpow_of_not_neg he, twoPow_eq, Nat.cast_one, mul_one]
    · simp only [if_neg he]

theorem rounds_of_contains {m : ℕ} {e : ℤ} (hm : 0 < m) {r : ℚ} (h : (Interval.around m e).Contains r) :
    Binary64.Rounds m e r := by
  obtain ⟨unit, den, hunit, hden, hratio, heq⟩ := around_eq m e
  rw [heq] at h
  obtain ⟨hlow, hhigh, hinside⟩ := h
  have hle : unit ≤ m * unit := Nat.le_mul_of_pos_left unit hm
  have hbelow : (if m = 2 ^ 52 ∧ -1074 < e then unit else 2 * unit) ≤ 4 * (m * unit) := by
    split <;> omega
  -- both ends in units: the interval is narrower below a power of two, where the floats lie closer
  have hcut : ((4 * (m * unit) - if m == twoPow 52 && e > -1074 then unit else 2 * unit : ℕ) : ℚ) =
      4 * ((m - if m = 2 ^ 52 ∧ -1074 < e then 1 / 4 else 1 / 2) * unit) := by
    simp only [Bool.and_eq_true, beq_iff_eq, decide_eq_true_iff, twoPow_eq, gt_iff_lt]
    rw [Nat.cast_sub hbelow]
    split <;> push_cast <;> ring
  have hadd : ((4 * (m * unit) + 2 * unit : ℕ) : ℚ) = 4 * ((m + 1 / 2) * unit) := by
    push_cast
    ring
  have hden' : (0 : ℚ) < (4 * den : ℕ) := by exact_mod_cast Nat.mul_pos (by decide) hden
  have hunits (c : ℚ) : c * 2 ^ e * (4 * den : ℕ) = 4 * (c * unit) := by
    rw [hratio]
    push_cast
    ring
  dsimp only at hlow hhigh hinside
  rw [hcut, ← hunits] at hlow hinside
  rw [hadd, ← hunits] at hhigh hinside
  refine ⟨le_of_mul_le_mul_right hlow hden', le_of_mul_le_mul_right hhigh hden', fun hodd => ?_⟩
  -- the ends belong to even integers only, and a power of two is even
  have hopen : (m % 2 == 0) = false := by
    rw [hodd]
    rfl
  have heven : ¬ (m = 2 ^ 52 ∧ -1074 < e) := by
    rintro ⟨rfl, -⟩
    cases hodd
  obtain ⟨hlow', hhigh'⟩ := hinside hopen
  rw [if_neg heven] at hlow'
  exact ⟨lt_of_mul_lt_mul_right hlow' hden'.le, lt_of_mul_lt_mul_right hhigh' hden'.le⟩

/-- The first digit of a float is where the search assumes it, or further up. -/
theorem leadExponent_around_le {m : ℕ} {e : ℤ} (hme : Binary64.Canonical m e) (hm : 0 < m) {num den : ℕ}
    (hnum : 0 < num) (hden : 0 < den) (hvalue : (num : ℚ) / den = m * 2 ^ e) :
    (10 : ℚ) ^ leadExponent num den ≤ m * 2 ^ e := by
  have hsmall := hme.value_lt
  have hlarge : (2 : ℚ) ^ e ≤ m * 2 ^ e := le_mul_of_one_le_left (by positivity) (by exact_mod_cast hm)
  obtain ⟨hlow, hhigh⟩ := Binary64.ratio_bounds hnum hden
  rw [hvalue] at hlow hhigh
  rw [← hvalue]
  refine leadExponent_le hnum hden ?_ ?_
  · by_contra hlt
    have hle : (2 : ℚ) ^ ((num.log2 : ℤ) - den.log2 + 1) ≤ 2 ^ e :=
      zpow_le_zpow_right₀ one_le_two (by have := hme.least; omega)
    linarith
  · by_contra hlt
    have hle : (2 : ℚ) ^ (53 + e) ≤ 2 ^ ((num.log2 : ℤ) - den.log2 - 1) :=
      zpow_le_zpow_right₀ one_le_two (by have := hme.greatest; omega)
    have hsplit : (2 : ℚ) ^ (53 + e) = 2 ^ 53 * 2 ^ e := zpow_add₀ two_ne_zero 53 e
    linarith

/-- The shortest decimal of a float is rounded to it. -/
theorem shortest_rounds (tie : Tie) {m : ℕ} {e : ℤ} (hme : Binary64.Canonical m e) (hm : 0 < m) :
    Binary64.Rounds m e (shortest tie m e).value := by
  obtain ⟨unit, den, hunit, hden, hratio, heq⟩ := around_eq m e
  have hden' : (0 : ℚ) < den := by exact_mod_cast hden
  have hle : unit ≤ m * unit := Nat.le_mul_of_pos_left unit hm
  have hvalue : ((4 * (m * unit) : ℕ) : ℚ) / (4 * den : ℕ) = m * 2 ^ e := by
    rw [div_eq_iff (by positivity)]
    push_cast
    rw [hratio]
    ring
  have hlead := leadExponent_around_le hme hm (by omega) (Nat.mul_pos (by decide) hden) hvalue
  refine rounds_of_contains hm ?_
  rw [shortest, Decimal.trim_value]
  refine search_contains tie ?_ ?_ 18 ?_
  · rw [heq]
    dsimp only
    split <;> omega
  · rw [heq]
    exact Nat.mul_pos (by decide) hden
  · -- the last grid has seventeen places behind the first digit
    rw [heq, Interval.Wide]
    dsimp only
    generalize leadExponent (4 * (m * unit)) (4 * den) = lead at hlead ⊢
    have hgrid : (10 : ℚ) ^ (lead + 1 - (18 : ℕ)) = 10 ^ lead / 10 ^ 17 := by
      rw [show lead + 1 - (18 : ℕ) = lead - (17 : ℕ) by push_cast; ring, zpow_sub₀ (by norm_num), zpow_natCast]
    have hfine : (10 : ℚ) ^ lead / 10 ^ 17 < 2 ^ e / 2 := by
      rw [div_lt_iff₀ (by norm_num)]
      have hpos : (0 : ℚ) < 2 ^ e := by positivity
      have := hme.value_lt
      linarith
    rw [hgrid]
    push_cast
    rw [hratio]
    have := mul_lt_mul_of_pos_right hfine (show (0 : ℚ) < 4 * den by positivity)
    linarith

/-- The float that is nearest to a tenth. -/
example : shortest .toEven 0x1999999999999a (-56) = ⟨1, -1⟩ := by decide

end Lockstep.Shortest
