import Lockstep.Number.Numeral
import Lockstep.Proofs.Number.Shortest

namespace Lockstep.Numeral

open Binary64

/-- The number that a numeral writes, but for its sign. -/
def magnitude (n : Numeral) : ℚ := n.digits * 10 ^ n.exponent

theorem value_append (ds fs : List Char) : value 0 (ds ++ fs) = value 0 ds * 10 ^ fs.length + value 0 fs := by
  rw [mul_comm]
  exact (Nat.ofDigitChars_append 0).trans Nat.ofDigitChars_eq_ofDigitChars_zero

/-- The place of the first digit bounds a numeral. -/
theorem magnitude_bounds {n : Numeral} (hdigits : 0 < n.digits) {lead : ℤ}
    (hlead : lead = (Nat.toDigits 10 n.digits).length + n.exponent) :
    (10 : ℚ) ^ (lead - 1) ≤ n.magnitude ∧ n.magnitude < 10 ^ lead := by
  have hpos : 0 < (Nat.toDigits 10 n.digits).length := Nat.length_toDigits_pos
  have hlt : n.digits < 10 ^ (Nat.toDigits 10 n.digits).length :=
    (Nat.length_toDigits_le_iff (by decide) hpos).mp le_rfl
  have hle : 10 ^ ((Nat.toDigits 10 n.digits).length - 1) ≤ n.digits := by
    by_contra hgt
    rw [not_le] at hgt
    obtain h | h := Nat.eq_zero_or_pos ((Nat.toDigits 10 n.digits).length - 1)
    · rw [h] at hgt
      omega
    · have := (Nat.length_toDigits_le_iff (by decide) h).mpr hgt
      omega
  generalize (Nat.toDigits 10 n.digits).length = l at *
  subst hlead
  have hpow : (0 : ℚ) < 10 ^ n.exponent := by positivity
  rw [magnitude]
  constructor
  · rw [show (l : ℤ) + n.exponent - 1 = (l - 1 : ℕ) + n.exponent by omega, zpow_add₀ (by norm_num), zpow_natCast]
    gcongr
    exact_mod_cast hle
  · rw [zpow_add₀ (by norm_num), zpow_natCast]
    gcongr
    exact_mod_cast hlt

theorem toFloat_of_zero {x : Float} {n : Numeral} {e : ℤ} (hx : ofFloat x = .finite n.negative 0 e)
    (hn : n.magnitude = 0) : n.toFloat = x := by
  have hdigits : n.digits = 0 := by
    have hpow : (10 : ℚ) ^ n.exponent ≠ 0 := by positivity
    exact_mod_cast (mul_eq_zero.mp hn).resolve_right hpow
  unfold toFloat
  dsimp only
  rw [if_pos (by rw [hdigits]; rfl)]
  exact nearest_zero hx

/-- Floats are neither tiny nor huge, and so are the numbers that are rounded to them. -/
theorem Rounds.bounds {m : ℕ} {e : ℤ} {r : ℚ} (hme : Canonical m e) (hm : 0 < m) (hr : Rounds m e r) :
    (2 : ℚ) ^ (-1074 : ℤ) / 2 ≤ r ∧ r < 2 ^ 54 * 2 ^ (971 : ℤ) := by
  have hm_ge : (1 : ℚ) ≤ m := by exact_mod_cast hm
  have hm_lt : (m : ℚ) < 2 ^ 53 := by exact_mod_cast hme.lt
  constructor
  · calc (2 : ℚ) ^ (-1074 : ℤ) / 2 ≤ 2 ^ e / 2 := by
          have := zpow_le_zpow_right₀ (one_le_two : (1 : ℚ) ≤ 2) hme.least
          linarith
      _ = (1 - 1 / 2) * 2 ^ e := by ring
      _ ≤ (m - if m = 2 ^ 52 ∧ -1074 < e then 1 / 4 else 1 / 2) * 2 ^ e := by
          gcongr
          split <;> norm_num
      _ ≤ r := hr.low
  · calc r ≤ (m + 1 / 2) * 2 ^ e := hr.high
      _ < 2 ^ 54 * 2 ^ e := by
          gcongr
          linarith
      _ ≤ 2 ^ 54 * 2 ^ (971 : ℤ) := by
          have := zpow_le_zpow_right₀ (one_le_two : (1 : ℚ) ≤ 2) hme.greatest
          linarith

/-- The first digit of such a number is not so far from the point that it decides alone. -/
theorem lead_of_bounds {n : Numeral} (hlow : (2 : ℚ) ^ (-1074 : ℤ) / 2 ≤ n.magnitude)
    (hhigh : n.magnitude < 2 ^ 54 * 2 ^ (971 : ℤ)) :
    0 < n.digits ∧ ¬ ((Nat.toDigits 10 n.digits).length + n.exponent < -400) ∧
      ¬ (400 < (Nat.toDigits 10 n.digits).length + n.exponent) := by
  have hdigits : 0 < n.digits := by
    by_contra hzero
    rw [magnitude, Nat.eq_zero_of_not_pos hzero, Nat.cast_zero, zero_mul] at hlow
    have : (0 : ℚ) < 2 ^ (-1074 : ℤ) / 2 := by positivity
    linarith
  obtain ⟨hlead_low, hlead_high⟩ := magnitude_bounds hdigits rfl
  refine ⟨hdigits, fun hlt => not_lt.mpr hlow ?_, fun hlt => not_le.mpr hhigh ?_⟩
  · calc n.magnitude < 10 ^ ((Nat.toDigits 10 n.digits).length + n.exponent) := hlead_high
      _ ≤ 10 ^ (-401 : ℤ) := zpow_le_zpow_right₀ (by norm_num) (by omega)
      _ ≤ 2 ^ (-1074 - 1 : ℤ) := Shortest.ten_zpow_le_two_zpow (by decide) (by decide)
      _ = 2 ^ (-1074 : ℤ) / 2 := by rw [zpow_sub_one₀ two_ne_zero, div_eq_mul_inv]
  · calc (2 : ℚ) ^ 54 * 2 ^ (971 : ℤ) = 2 ^ (54 + 971 : ℤ) := (zpow_add₀ two_ne_zero 54 971).symm
      _ ≤ 2 ^ (3 * 400 : ℤ) := zpow_le_zpow_right₀ one_le_two (by decide)
      _ = (2 ^ 3) ^ (400 : ℤ) := zpow_mul 2 3 400
      _ ≤ 10 ^ (400 : ℤ) := zpow_le_zpow_left₀ (by decide) (by norm_num) (by norm_num)
      _ ≤ 10 ^ ((Nat.toDigits 10 n.digits).length + n.exponent - 1) :=
        zpow_le_zpow_right₀ (by norm_num) (by omega)
      _ ≤ n.magnitude := hlead_low

theorem toFloat_of_rounds {x : Float} {n : Numeral} {m : ℕ} {e : ℤ} (hm : 0 < m)
    (hx : ofFloat x = .finite n.negative m e) (hn : Rounds m e n.magnitude) : n.toFloat = x := by
  obtain ⟨hlow, hhigh⟩ := Rounds.bounds (toBits_of_finite hx).1 hm hn
  obtain ⟨hdigits, hnotTiny, hnotHuge⟩ := lead_of_bounds hlow hhigh
  have hfirst : ¬ ((n.digits == 0 ||
      decide ((Nat.toDigits 10 n.digits).length + n.exponent < -400)) = true) := by
    rw [Bool.or_eq_true, beq_iff_eq, decide_eq_true_iff, not_or]
    exact ⟨hdigits.ne', hnotTiny⟩
  unfold toFloat
  dsimp only
  rw [if_neg hfirst, if_neg hnotHuge]
  rw [magnitude] at hn
  split
  · rename_i hneg
    refine nearest_of_rounds hdigits (tenPow_pos _) hx ?_
    rwa [zpow_of_neg hneg, ← div_eq_mul_inv] at hn
  · rename_i hneg
    refine nearest_of_rounds (Nat.mul_pos hdigits (tenPow_pos _)) Nat.one_pos hx ?_
    rw [Nat.cast_one, div_one, Nat.cast_mul]
    rwa [zpow_of_not_neg hneg] at hn

/-- A whole number of 64 bits names a finite float. -/
theorem isFinite_toFloat_of_lt (negative : Bool) {n : ℕ} (hn : n < 2 ^ 64) :
    (⟨negative, n, 0⟩ : Numeral).toFloat.isFinite = true := by
  unfold toFloat
  dsimp only
  split
  · exact isFinite_nearest_of_lt negative (by decide)
  · have hle : ((Nat.toDigits 10 n).length : ℤ) ≤ 20 := by
      have : (Nat.toDigits 10 n).length ≤ 20 :=
        (Nat.length_toDigits_le_iff (by decide) (by decide)).mpr (Nat.lt_trans hn (by decide))
      exact_mod_cast this
    rw [if_neg (by omega), if_neg (by decide)]
    exact isFinite_nearest_of_lt negative (by rwa [show n * tenPow (Int.natAbs 0) = n from Nat.mul_one n])

end Lockstep.Numeral
