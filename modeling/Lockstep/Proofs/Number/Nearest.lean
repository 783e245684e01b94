import Lockstep.Proofs.Number.Words
import Mathlib.Algebra.Order.Field.Power
import Mathlib.Tactic.FieldSimp
import Mathlib.Tactic.Linarith
import Mathlib.Tactic.NormNum
import Mathlib.Tactic.Positivity
import Mathlib.Tactic.Ring

namespace Lockstep

theorem twoPow_eq (k : ℕ) : twoPow k = 2 ^ k := rfl

theorem tenPow_eq (k : ℕ) : tenPow k = 10 ^ k := rfl

theorem zpow_of_neg {b : ℕ} [b.AtLeastTwo] {e : ℤ} (he : e < 0) :
    (OfNat.ofNat b : ℚ) ^ e = ((b ^ e.natAbs : ℕ) : ℚ)⁻¹ := by
  obtain ⟨n, rfl⟩ : ∃ n : ℕ, e = -n := ⟨e.natAbs, by omega⟩
  rw [zpow_neg, zpow_natCast, Int.natAbs_neg, Int.natAbs_natCast, Nat.cast_pow]
  rfl

theorem zpow_of_not_neg {b : ℕ} [b.AtLeastTwo] {e : ℤ} (he : ¬ e < 0) :
    (OfNat.ofNat b : ℚ) ^ e = ((b ^ e.natAbs : ℕ) : ℚ) := by
  obtain ⟨n, rfl⟩ := Int.eq_ofNat_of_zero_le (not_lt.mp he)
  rw [zpow_natCast, Int.natAbs_natCast, Nat.cast_pow]
  rfl

/-- A quotient is rounded to `m` if it is at most half a unit away, and less than that if `m` is odd. -/
theorem Rounding.halfEven_eq {num den m : ℕ} (hden : 0 < den) (hlow : 2 * m * den ≤ 2 * num + den)
    (hhigh : 2 * num ≤ 2 * m * den + den)
    (hodd : m % 2 = 1 → 2 * m * den < 2 * num + den ∧ 2 * num < 2 * m * den + den) :
    halfEven num den = m := by
  have hdiv := Nat.div_add_mod num den
  have hmod := Nat.mod_lt num hden
  generalize hq : num / den = q at hdiv
  generalize hr : num % den = r at hdiv hmod
  subst hdiv
  have hle : q ≤ m := by
    by_contra hlt
    nlinarith
  have hge : m ≤ q + 1 := by
    by_contra hlt
    nlinarith
  obtain rfl | rfl : m = q ∨ m = q + 1 := by omega
  · have hprod : 2 * m * den = 2 * (den * m) := by ring
    rw [halfEven, hq, hr]
    split
    · rfl
    · -- only an even integer may be half a unit away
      have heven : m % 2 = 0 := by
        by_contra hne
        have := hodd (by omega)
        omega
      rw [if_neg (by omega), heven, Nat.add_zero]
  · have hprod : 2 * (q + 1) * den = 2 * (den * q) + 2 * den := by ring
    rw [halfEven, hq, hr, if_neg (by omega)]
    split
    · rfl
    · have hone : q % 2 = 1 := by
        by_contra hne
        have := hodd (by omega)
        omega
      rw [hone]

theorem Rounding.halfEven_le {num den c : ℕ} (hden : 0 < den) (h : num < c * den) : halfEven num den ≤ c := by
  have hround := two_mul_halfEven_le num hden
  by_contra hlt
  have : (c + 1) * den ≤ halfEven num den * den := Nat.mul_le_mul_right den (Nat.lt_of_not_le hlt)
  have : (c + 1) * den = c * den + den := Nat.succ_mul c den
  omega

namespace Binary64

/-- The bits of a number bound it from both sides, and those of two numbers their ratio. -/
theorem ratio_bounds {num den : ℕ} (hnum : 0 < num) (hden : 0 < den) :
    (2 : ℚ) ^ ((num.log2 : ℤ) - den.log2 - 1) < (num : ℚ) / den ∧
      (num : ℚ) / den < 2 ^ ((num.log2 : ℤ) - den.log2 + 1) := by
  have hden' : (0 : ℚ) < den := by exact_mod_cast hden
  have hnum_ge : (2 : ℚ) ^ num.log2 ≤ num := by exact_mod_cast Nat.log2_self_le hnum.ne'
  have hnum_lt : (num : ℚ) < 2 ^ (num.log2 + 1) := by exact_mod_cast Nat.lt_log2_self
  have hden_ge : (2 : ℚ) ^ den.log2 ≤ den := by exact_mod_cast Nat.log2_self_le hden.ne'
  have hden_lt : (den : ℚ) < 2 ^ (den.log2 + 1) := by exact_mod_cast Nat.lt_log2_self
  generalize num.log2 = a at *
  generalize den.log2 = b at *
  constructor
  · rw [show (a : ℤ) - b - 1 = a - (b + 1 : ℕ) by push_cast; ring, zpow_sub₀ two_ne_zero, zpow_natCast,
      zpow_natCast]
    calc (2 : ℚ) ^ a / 2 ^ (b + 1) < 2 ^ a / den := by gcongr
      _ ≤ num / den := by gcongr
  · rw [show (a : ℤ) - b + 1 = (a + 1 : ℕ) - b by push_cast; ring, zpow_sub₀ two_ne_zero, zpow_natCast,
      zpow_natCast]
    calc (num : ℚ) / den < 2 ^ (a + 1) / den := by gcongr
      _ ≤ 2 ^ (a + 1) / 2 ^ b := by gcongr

/-- A ratio is compared with a number of units without leaving the natural numbers. -/
theorem fits_iff (num : ℕ) {den : ℕ} (hden : 0 < den) (c : ℕ) (e : ℤ) :
    (if e < 0 then (num * twoPow e.natAbs < c * den : Bool) else num < c * (den * twoPow e.natAbs)) = true ↔
      (num : ℚ) / den < c * 2 ^ e := by
  have hden' : (0 : ℚ) < den := by exact_mod_cast hden
  have hpow : (0 : ℚ) < ((2 ^ e.natAbs : ℕ) : ℚ) := by positivity
  rw [div_lt_iff₀ hden']
  split
  · rename_i he
    rw [decide_eq_true_iff, zpow_of_neg he, ← @Nat.cast_lt ℚ, Nat.cast_mul, Nat.cast_mul]
    rw [show (c : ℚ) * ((2 ^ e.natAbs : ℕ) : ℚ)⁻¹ * den = c * den / ((2 ^ e.natAbs : ℕ) : ℚ) by ring,
      lt_div_iff₀ hpow]
    rfl
  · rename_i he
    rw [decide_eq_true_iff, zpow_of_not_neg he, ← @Nat.cast_lt ℚ, Nat.cast_mul,
      Nat.cast_mul, mul_right_comm, mul_assoc]
    rfl

/-- The exponent of the unit is the least one that leaves the ratio below `2 ^ 53` units. -/
theorem unitExponent_spec {num den : ℕ} (hnum : 0 < num) (hden : 0 < den) :
    -1074 ≤ unitExponent num den ∧ (num : ℚ) / den < 2 ^ 53 * 2 ^ unitExponent num den ∧
      (unitExponent num den = -1074 ∨ 2 ^ 52 * 2 ^ unitExponent num den ≤ (num : ℚ) / den) := by
  obtain ⟨hlow, hhigh⟩ := ratio_bounds hnum hden
  have hfits := fits_iff num hden (twoPow 53) ((num.log2 : ℤ) - den.log2 - 53)
  have hcast : ((twoPow 53 : ℕ) : ℚ) = 2 ^ 53 := by norm_num [twoPow]
  rw [hcast] at hfits
  have hpow (k : ℕ) (e : ℤ) : (2 : ℚ) ^ k * 2 ^ e = 2 ^ (k + e) := by
    rw [zpow_add₀ two_ne_zero, zpow_natCast]
  -- without the bound from below, the exponent is one of two
  obtain ⟨g, hg, hlt, hge⟩ : ∃ g, unitExponent num den = max (-1074) g ∧
      (num : ℚ) / den < 2 ^ 53 * 2 ^ g ∧ 2 ^ 52 * 2 ^ g ≤ (num : ℚ) / den := by
    by_cases hguess : (num : ℚ) / den < 2 ^ 53 * 2 ^ ((num.log2 : ℤ) - den.log2 - 53)
    · refine ⟨_, congrArg (max (-1074)) (if_pos (hfits.mpr hguess)), hguess, ?_⟩
      rw [hpow]
      refine le_of_eq_of_le ?_ hlow.le
      congr 1
      push_cast
      ring
    · refine ⟨_, congrArg (max (-1074)) (if_neg fun h => hguess (hfits.mp h)), ?_, ?_⟩
      · rw [hpow]
        refine lt_of_lt_of_eq hhigh ?_
        congr 1
        push_cast
        ring
      · refine le_of_eq_of_le ?_ (not_lt.mp hguess)
        rw [hpow, hpow]
        congr 1
        push_cast
        ring
  rw [hg]
  refine ⟨le_max_left _ _, lt_of_lt_of_le hlt ?_, ?_⟩
  · gcongr
    · norm_num
    · exact le_max_right _ _
  · obtain h | h := le_total (-1074) g
    · exact Or.inr (by rwa [max_eq_right h])
    · exact Or.inl (max_eq_left h)

/-- A ratio between half a unit below `c` units and half a unit above is rounded to `c` of them. -/
theorem halfEven_units {num den c : ℕ} {e : ℤ} (hden : 0 < den)
    (hlow : (c - 1 / 2) * 2 ^ e ≤ (num : ℚ) / den) (hhigh : (num : ℚ) / den ≤ (c + 1 / 2) * 2 ^ e)
    (hodd : c % 2 = 1 → (c - 1 / 2) * 2 ^ e < (num : ℚ) / den ∧ (num : ℚ) / den < (c + 1 / 2) * 2 ^ e) :
    (if e < 0 then Rounding.halfEven (num * twoPow e.natAbs) den
      else Rounding.halfEven num (den * twoPow e.natAbs)) = c := by
  have hden' : (0 : ℚ) < den := by exact_mod_cast hden
  have hpow : 0 < 2 ^ e.natAbs := by positivity
  -- the unit divides the numerator or is part of the denominator
  have hkey {a b : ℕ} (hb : 0 < b) (hab : (num : ℚ) / den = a / b * 2 ^ e) : Rounding.halfEven a b = c := by
    have hunit : (0 : ℚ) < 2 ^ e := by positivity
    have hb' : (0 : ℚ) < b := by exact_mod_cast hb
    rw [hab] at hlow hhigh hodd
    simp only [mul_le_mul_iff_left₀ hunit, mul_lt_mul_iff_left₀ hunit, le_div_iff₀ hb', div_le_iff₀ hb',
      lt_div_iff₀ hb', div_lt_iff₀ hb'] at hlow hhigh hodd
    refine Rounding.halfEven_eq hb ?_ ?_ fun hc => ⟨?_, ?_⟩
    · have : (2 * c * b : ℚ) ≤ 2 * a + b := by linarith
      exact_mod_cast this
    · have : (2 * a : ℚ) ≤ 2 * c * b + b := by linarith
      exact_mod_cast this
    · have : (2 * c * b : ℚ) < 2 * a + b := by linarith [(hodd hc).1]
      exact_mod_cast this
    · have : (2 * a : ℚ) < 2 * c * b + b := by linarith [(hodd hc).2]
      exact_mod_cast this
  split
  · rename_i he
    refine hkey hden ?_
    rw [zpow_of_neg he, Nat.cast_mul]
    change _ = _ * ((2 ^ e.natAbs : ℕ) : ℚ) / _ * _
    have : ((2 ^ e.natAbs : ℕ) : ℚ) ≠ 0 := by exact_mod_cast hpow.ne'
    field_simp
  · rename_i he
    refine hkey (Nat.mul_pos hden hpow) ?_
    rw [zpow_of_not_neg he, Nat.cast_mul]
    change _ = _ / (_ * ((2 ^ e.natAbs : ℕ) : ℚ)) * _
    have : ((2 ^ e.natAbs : ℕ) : ℚ) ≠ 0 := by exact_mod_cast hpow.ne'
    field_simp

/-- The significand and the exponent of a finite float: all bits are used unless the unit is the least. -/
structure Canonical (m : ℕ) (e : ℤ) : Prop where
  lt : m < 2 ^ 53
  least : -1074 ≤ e
  greatest : e ≤ 971
  full : 2 ^ 52 ≤ m ∨ e = -1074

theorem Canonical.value_lt {m : ℕ} {e : ℤ} (h : Canonical m e) : (m * 2 ^ e : ℚ) < 2 ^ 53 * 2 ^ e := by
  have : (m : ℚ) < 2 ^ 53 := by exact_mod_cast h.lt
  gcongr

/-- The numbers that are rounded to `m` units of `2 ^ e`. Below a power of two the units are half as large. -/
structure Rounds (m : ℕ) (e : ℤ) (r : ℚ) : Prop where
  low : (m - if m = 2 ^ 52 ∧ -1074 < e then 1 / 4 else 1 / 2) * 2 ^ e ≤ r
  high : r ≤ (m + 1 / 2) * 2 ^ e
  odd : m % 2 = 1 → (m - 1 / 2) * 2 ^ e < r ∧ r < (m + 1 / 2) * 2 ^ e

/-- A number is not counted in larger units than the float that it is rounded to. -/
theorem unitExponent_le_of_rounds {num den m : ℕ} {e : ℤ} (hnum : 0 < num) (hden : 0 < den)
    (hme : Canonical m e) (hr : Rounds m e ((num : ℚ) / den)) : unitExponent num den ≤ e := by
  obtain ⟨-, -, hfull⟩ := unitExponent_spec hnum hden
  by_contra hlt
  have hlarge : 2 ^ 52 * 2 ^ unitExponent num den ≤ (num : ℚ) / den :=
    hfull.resolve_left (by have := hme.least; omega)
  have hle : (2 : ℚ) ^ (e + 1) ≤ 2 ^ unitExponent num den := zpow_le_zpow_right₀ one_le_two (by omega)
  have hdouble : (2 : ℚ) ^ (e + 1) = 2 ^ e * 2 := zpow_add_one₀ two_ne_zero e
  have hpos : (0 : ℚ) < 2 ^ e := by positivity
  have hm : (m : ℚ) ≤ 2 ^ 53 - 1 := by
    have : m + 1 ≤ 2 ^ 53 := hme.lt
    have : (m : ℚ) + 1 ≤ 2 ^ 53 := by exact_mod_cast this
    linarith
  have hsmall : ((m : ℚ) + 1 / 2) * 2 ^ e ≤ (2 ^ 53 - 1 / 2) * 2 ^ e := by
    gcongr
    linarith
  linarith [hr.high]

theorem Rounds.half_unit_le {m : ℕ} {e : ℤ} {r : ℚ} (hr : Rounds m e r) : ((m : ℚ) - 1 / 2) * 2 ^ e ≤ r := by
  refine le_trans ?_ hr.low
  have : (0 : ℚ) < 2 ^ e := by positivity
  gcongr
  split <;> norm_num

/-- It is counted in smaller units only if the float is a power of two and the number is below it. -/
theorem unitExponent_of_rounds {num den m : ℕ} {e : ℤ} (hnum : 0 < num) (hden : 0 < den)
    (hme : Canonical m e) (hr : Rounds m e ((num : ℚ) / den)) :
    unitExponent num den = e ∨
      m = 2 ^ 52 ∧ -1074 < e ∧ unitExponent num den = e - 1 ∧ (num : ℚ) / den < 2 ^ 53 * 2 ^ (e - 1) := by
  have hle := unitExponent_le_of_rounds hnum hden hme hr
  obtain ⟨hleast, hlt, -⟩ := unitExponent_spec hnum hden
  generalize unitExponent num den = u at *
  generalize (num : ℚ) / den = r at *
  obtain rfl | hlt' := eq_or_lt_of_le hle
  · exact Or.inl rfl
  right
  have hpos : (0 : ℚ) < 2 ^ e := by positivity
  have hhalf : (2 : ℚ) ^ (e - 1) = 2 ^ e / 2 := by rw [zpow_sub_one₀ two_ne_zero, div_eq_mul_inv]
  have hpow : (2 : ℚ) ^ u ≤ 2 ^ (e - 1) := zpow_le_zpow_right₀ one_le_two (by omega)
  have hm52 : m = 2 ^ 52 := by
    have hfull : 2 ^ 52 ≤ m := hme.full.resolve_right (by omega)
    have : (m : ℚ) - 1 / 2 < 2 ^ 52 := by
      refine lt_of_mul_lt_mul_right ?_ hpos.le
      linarith [hr.half_unit_le]
    have : (m : ℚ) < (2 ^ 52 + 1 : ℕ) := by
      push_cast
      linarith
    have : m < 2 ^ 52 + 1 := by exact_mod_cast this
    omega
  refine ⟨hm52, by omega, ?_, by linarith⟩
  -- two powers down, the number would not be below its bound
  by_contra hne
  have hquarter : (2 : ℚ) ^ (e - 2) = 2 ^ e / 4 := by
    rw [zpow_sub₀ two_ne_zero]
    norm_num
  have hpow' : (2 : ℚ) ^ u ≤ 2 ^ (e - 2) := zpow_le_zpow_right₀ one_le_two (by omega)
  have hlow := hr.low
  rw [if_pos ⟨hm52, by omega⟩, hm52] at hlow
  push_cast at hlow
  linarith

/-- A number in the rounding interval of a float has the bits of the float. -/
theorem magnitudeBits_of_rounds {num den m : ℕ} {e : ℤ} (hnum : 0 < num) (hden : 0 < den)
    (hme : Canonical m e) (hr : Rounds m e ((num : ℚ) / den)) :
    magnitudeBits num den = (e + 1074).toNat * 2 ^ 52 + m := by
  have hunit := unitExponent_of_rounds hnum hden hme hr
  obtain ⟨hlt, hleast, hgreatest, -⟩ := hme
  have hbits {u : ℤ} {c : ℕ} (hu : unitExponent num den = u) (hlow : (c - 1 / 2) * 2 ^ u ≤ (num : ℚ) / den)
      (hhigh : (num : ℚ) / den ≤ (c + 1 / 2) * 2 ^ u)
      (hodd : c % 2 = 1 → (c - 1 / 2) * 2 ^ u < (num : ℚ) / den ∧ (num : ℚ) / den < (c + 1 / 2) * 2 ^ u) :
      magnitudeBits num den = min ((u + 1074).toNat * 2 ^ 52 + c) (2047 * 2 ^ 52) := by
    rw [magnitudeBits, if_neg (by simpa using hnum.ne')]
    dsimp only
    rw [hu, halfEven_units hden hlow hhigh hodd]
    rfl
  obtain hu | ⟨rfl, hleast', hu, hbelow⟩ := hunit
  · rw [hbits hu hr.half_unit_le hr.high hr.odd]
    omega
  · -- the number of the smaller units carries into the exponent
    have hhalf : (2 : ℚ) ^ (e - 1) = 2 ^ e / 2 := by rw [zpow_sub_one₀ two_ne_zero, div_eq_mul_inv]
    have hpos : (0 : ℚ) < 2 ^ e := by positivity
    have hlow := hr.low
    rw [if_pos ⟨rfl, hleast'⟩] at hlow
    push_cast at hlow
    rw [hbits (c := 2 ^ 53) hu (by push_cast; linarith) (by push_cast; linarith) (fun h => by cases h)]
    omega

theorem field_lt (word : ℕ) : field word < 2048 := Nat.mod_lt _ (by decide)

theorem fraction_lt (word : ℕ) : fraction word < 2 ^ 52 := Nat.mod_lt _ (by decide)

/-- A word is its sign, its field and its fraction side by side. -/
theorem word_eq {word : ℕ} (h : word < 2 ^ 64) :
    field word * 2 ^ 52 + fraction word + (if word / twoPow 63 == 1 then 2 ^ 63 else 0) = word := by
  have hsign : (if word / twoPow 63 == 1 then 2 ^ 63 else 0) = word / 2 ^ 52 / 2048 * 2 ^ 63 := by
    rw [Nat.div_div_eq_div_mul, twoPow_eq, show 2 ^ 52 * 2048 = 2 ^ 63 from rfl]
    obtain h | h : word / 2 ^ 63 = 0 ∨ word / 2 ^ 63 = 1 := by omega
    all_goals rw [h]; rfl
  rw [hsign, field, fraction, twoPow_eq]
  omega

/-- A float with a significand is finite, and its word is made of its parts. -/
theorem toBits_of_finite {x : Float} {negative : Bool} {m : ℕ} {e : ℤ}
    (hx : ofFloat x = .finite negative m e) :
    Canonical m e ∧
      x.toBits.toNat = (e + 1074).toNat * 2 ^ 52 + m + if negative then 2 ^ 63 else 0 := by
  have hword := word_eq x.toBits.toNat_lt
  have hfield := field_lt x.toBits.toNat
  have hfraction := fraction_lt x.toBits.toNat
  unfold ofFloat ofBits at hx
  dsimp only at hx
  rw [← field, ← fraction] at hx
  generalize x.toBits.toNat = word at *
  split at hx
  · split at hx
    all_goals cases hx
  · rename_i hfinite
    rw [beq_iff_eq] at hfinite
    split at hx
    · rename_i hzero
      rw [beq_iff_eq] at hzero
      cases hx
      refine ⟨⟨by omega, by omega, by omega, Or.inr rfl⟩, ?_⟩
      simp only [hzero] at hword
      omega
    · rename_i hzero
      rw [beq_iff_eq] at hzero
      cases hx
      rw [twoPow_eq]
      refine ⟨⟨by omega, by omega, by omega, Or.inl (by omega)⟩, ?_⟩
      omega

theorem exists_finite {x : Float} (hx : x.isFinite = true) :
    ∃ negative m e, ofFloat x = .finite negative m e := by
  have hfield := (isFinite_iff x).mp hx
  unfold ofFloat ofBits
  dsimp only
  rw [if_neg]
  · split
    all_goals exact ⟨_, _, _, rfl⟩
  · rwa [beq_iff_eq]

theorem nearest_of_bits {x : Float} {negative : Bool} {num den : ℕ}
    (h : magnitudeBits num den + (if negative then 2 ^ 63 else 0) = x.toBits.toNat) :
    nearest negative num den = x := by
  rw [nearest, twoPow_eq, h, UInt64.ofNat_toNat, ofBits_toBits]

/-- A float is the nearest one to every number in its rounding interval. -/
theorem nearest_of_rounds {x : Float} {negative : Bool} {num den m : ℕ} {e : ℤ} (hnum : 0 < num)
    (hden : 0 < den) (hx : ofFloat x = .finite negative m e) (hr : Rounds m e ((num : ℚ) / den)) :
    nearest negative num den = x := by
  obtain ⟨hme, hword⟩ := toBits_of_finite hx
  refine nearest_of_bits ?_
  rw [hword, magnitudeBits_of_rounds hnum hden hme hr]

theorem nearest_zero {x : Float} {negative : Bool} {e : ℤ} (hx : ofFloat x = .finite negative 0 e) :
    nearest negative 0 1 = x := by
  obtain ⟨hme, hword⟩ := toBits_of_finite hx
  refine nearest_of_bits ?_
  have := hme.full
  rw [hword, show magnitudeBits 0 1 = 0 from rfl]
  omega

theorem magnitudeBits_le (num den : ℕ) : magnitudeBits num den ≤ 2047 * 2 ^ 52 := by
  unfold magnitudeBits
  split
  · exact Nat.zero_le _
  · exact Nat.min_le_right _ _

theorem toBits_nearest (negative : Bool) (num den : ℕ) :
    (nearest negative num den).toBits.toNat =
      magnitudeBits num den + if negative then 2 ^ 63 else 0 := by
  have hle := magnitudeBits_le num den
  rw [nearest, twoPow_eq]
  generalize magnitudeBits num den = bits at *
  have hlt : (bits + if negative then 2 ^ 63 else 0) < 2 ^ 64 := by
    split <;> omega
  have hword := UInt64.toNat_ofNat_of_lt' hlt
  rw [toBits_ofBits, hword]
  rw [hword, field, fraction, twoPow_eq]
  split <;> omega

/-- Every number of 64 bits is far from the greatest float. -/
theorem isFinite_nearest_of_lt (negative : Bool) {n : ℕ} (hn : n < 2 ^ 64) :
    (nearest negative n 1).isFinite = true := by
  have hbits : magnitudeBits n 1 < 2047 * 2 ^ 52 := by
    obtain rfl | hpos := Nat.eq_zero_or_pos n
    · decide
    obtain ⟨hleast, hlt, hfull⟩ := unitExponent_spec hpos Nat.one_pos
    have hunit : unitExponent n 1 ≤ 12 := by
      obtain h | h := hfull
      · omega
      · by_contra hgt
        have hle : (2 : ℚ) ^ (12 : ℤ) ≤ 2 ^ unitExponent n 1 := zpow_le_zpow_right₀ one_le_two (by omega)
        have hn' : (n : ℚ) < 2 ^ 64 := by exact_mod_cast hn
        norm_num at h hle
        linarith
    have hfits := (fits_iff n Nat.one_pos (2 ^ 53) (unitExponent n 1)).mpr (by push_cast at hlt ⊢; exact hlt)
    have hround : (if unitExponent n 1 < 0 then Rounding.halfEven (n * twoPow (unitExponent n 1).natAbs) 1
        else Rounding.halfEven n (1 * twoPow (unitExponent n 1).natAbs)) ≤ 2 ^ 53 := by
      split at hfits
      · rename_i hneg
        rw [if_pos hneg]
        exact Rounding.halfEven_le Nat.one_pos (of_decide_eq_true hfits)
      · rename_i hneg
        rw [if_neg hneg]
        exact Rounding.halfEven_le (Nat.mul_pos Nat.one_pos (twoPow_pos _)) (of_decide_eq_true hfits)
    unfold magnitudeBits
    rw [if_neg (by simpa using hpos.ne')]
    refine Nat.lt_of_le_of_lt (Nat.min_le_left _ _) (Nat.lt_of_le_of_lt (Nat.add_le_add_left hround _) ?_)
    rw [twoPow_eq]
    omega
  -- the sign is in the highest bit, which does not count for the field
  rw [isFinite_iff, toBits_nearest, field, twoPow_eq]
  cases negative with
  | false =>
    rw [if_neg Bool.false_ne_true]
    omega
  | true =>
    rw [if_pos rfl]
    omega

end Binary64

end Lockstep
