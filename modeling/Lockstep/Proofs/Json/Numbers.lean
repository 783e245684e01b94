import Lockstep.Proofs.Json.Readers
import Lockstep.Proofs.Number.Numerals

namespace Lockstep.Json

theorem places_digits {fs rest : List Char} (hfs : ∀ c ∈ fs, c.isDigit = true) (hne : fs ≠ [])
    (hrest : NoDigit rest) : places (fs ++ rest) = .ok (fs, rest) := by
  obtain ⟨htake, hdrop⟩ := takeWhile_digits hfs hrest
  obtain ⟨c, cs, rfl⟩ := List.exists_cons_of_ne_nil hne
  unfold places
  rw [htake, hdrop]

/-- The digits behind the point, if any. -/
def point (fs : List Char) : List Char :=
  if fs.isEmpty then [] else '.' :: fs

theorem exponent_signed (e : ℤ) {rest : List Char} (hrest : NoDigit rest) :
    exponent ((if e < 0 then '-' else '+') :: (Decimal.digits e.natAbs ++ rest)) = .ok (e, rest) := by
  obtain ⟨c, cs, hcs, -⟩ := digits_eq e.natAbs
  have hplaces := places_digits (fun c hc => isDigit_of_mem_digits (n := e.natAbs) hc) (hcs ▸ List.cons_ne_nil c cs)
    hrest
  by_cases he : e < 0
  · rw [if_pos he]
    change Except.map _ (places (Decimal.digits e.natAbs ++ rest)) = _
    rw [hplaces, ok_map]
    change Except.ok (-(Numeral.value 0 (Decimal.digits e.natAbs) : ℤ), rest) = _
    rw [value_digits, show -(e.natAbs : ℤ) = e by omega]
  · rw [if_neg he]
    change Except.map _ (places (Decimal.digits e.natAbs ++ rest)) = _
    rw [hplaces, ok_map]
    change Except.ok ((Numeral.value 0 (Decimal.digits e.natAbs) : ℤ), rest) = _
    rw [value_digits, show (e.natAbs : ℤ) = e by omega]

theorem fractionAndExponent_point (negative : Bool) (ds : List Char) {fs rest : List Char}
    (hfs : ∀ c ∈ fs, c.isDigit = true) (hne : fs ≠ []) (hrest : Ends rest) :
    fractionAndExponent negative ds ('.' :: (fs ++ rest)) =
      .ok (⟨⟨negative, Numeral.value 0 (ds ++ fs), -fs.length⟩, false⟩, rest) := by
  have hempty : fs.isEmpty = false := List.isEmpty_eq_false_iff.mpr hne
  rw [fractionAndExponent, places_digits hfs hne hrest.1]
  cases rest with
  | nil => simp [hempty]
  | cons c rest =>
    obtain ⟨-, hlower, hupper⟩ := hrest.2 c rfl
    simp [hempty, hlower, hupper]

theorem fractionAndExponent_power (negative : Bool) (ds : List Char) {fs rest : List Char} (e : ℤ)
    (hfs : ∀ c ∈ fs, c.isDigit = true) (hrest : NoDigit rest) :
    fractionAndExponent negative ds
        (point fs ++ 'e' :: (if e < 0 then '-' else '+') :: (Decimal.digits e.natAbs ++ rest)) =
      .ok (⟨⟨negative, Numeral.value 0 (ds ++ fs), e - fs.length⟩, false⟩, rest) := by
  have hexponent := exponent_signed e hrest
  generalize (if e < 0 then '-' else '+') :: (Decimal.digits e.natAbs ++ rest) = cs at *
  cases fs with
  | nil => simp [fractionAndExponent, point, hexponent]
  | cons c fs =>
    have hend : NoDigit ('e' :: cs) := .of_cons rfl cs
    have hplaces := places_digits hfs (List.cons_ne_nil c fs) hend
    have htext : point (c :: fs) ++ 'e' :: cs = '.' :: (c :: fs ++ 'e' :: cs) := rfl
    rw [htext, fractionAndExponent, hplaces]
    simp [hexponent]

/-- With any sign before it and any end behind it, the text is read as a numeral of the given magnitude, and
not as a whole number. -/
def Denotes (cs : List Char) (v : ℚ) : Prop :=
  ∀ (negative : Bool) ⦃rest⦄, Ends rest →
    ∃ n, number negative (cs ++ rest) = .ok (⟨n, false⟩, rest) ∧ n.negative = negative ∧ n.magnitude = v

theorem denotes_point {ds fs : List Char} (hds : Leading ds) (hfs : ∀ c ∈ fs, c.isDigit = true)
    (hne : fs ≠ []) : Denotes (ds ++ '.' :: fs) (Numeral.value 0 (ds ++ fs) * 10 ^ (-fs.length : ℤ)) := by
  intro negative rest hrest
  refine ⟨⟨negative, Numeral.value 0 (ds ++ fs), -fs.length⟩, ?_, rfl, rfl⟩
  rw [List.append_assoc, List.cons_append, number_digits negative hds (.of_cons rfl _)]
  exact fractionAndExponent_point negative ds hfs hne hrest

/-- A single zero behind the point adds nothing. -/
theorem denotes_point_zero {ds : List Char} (hds : Leading ds) :
    Denotes (ds ++ ['.', '0']) (Numeral.value 0 (ds ++ ['0']) * 10 ^ (-(1 : ℕ) : ℤ)) :=
  denotes_point hds (List.forall_mem_singleton.mpr rfl) (List.cons_ne_nil '0' [])

theorem denotes_zero : Denotes ['0', '.', '0'] 0 := by
  have h := denotes_point_zero (.single (c := '0') rfl)
  rwa [show Numeral.value 0 (['0'] ++ ['0']) = 0 from rfl, Nat.cast_zero, zero_mul] at h

theorem value_padded {width n : ℕ} (hn : n < tenPow width) (hwidth : 0 < width) :
    (Decimal.padded width n).length = width ∧ Numeral.value 0 (Decimal.padded width n) = n := by
  have hlength : (Decimal.digits n).length ≤ width := (Nat.length_toDigits_le_iff (by decide) hwidth).mpr hn
  unfold Decimal.padded
  constructor
  · dsimp only
    rw [List.length_append, List.length_replicate]
    omega
  · have hzeros : Numeral.value 0 (List.replicate (width - (Decimal.digits n).length) '0') = 0 :=
      Nat.ofDigitChars_replicate_zero
    dsimp only
    rw [Numeral.value_append, hzeros, Nat.zero_mul, Nat.zero_add, value_digits]

theorem denotes_positional {d : Shortest.Decimal} (hd : d.exponent < 0) : Denotes d.positional d.value := by
  have hplaces : 0 < d.exponent.natAbs := by omega
  obtain ⟨hlength, hvalue⟩ := value_padded (Nat.mod_lt d.digits (tenPow_pos d.exponent.natAbs)) hplaces
  have hdigits : ∀ c ∈ Decimal.padded d.exponent.natAbs (d.digits % tenPow d.exponent.natAbs),
      c.isDigit = true := by
    intro c hc
    obtain hzero | hc := List.mem_append.mp hc
    · rw [List.eq_of_mem_replicate hzero]
      rfl
    · exact isDigit_of_mem_digits hc
  have h := denotes_point (leading_digits (d.digits / tenPow d.exponent.natAbs)) hdigits
    (List.ne_nil_of_length_pos (by omega))
  rw [Numeral.value_append, hlength, hvalue, value_digits, ← tenPow_eq, Nat.div_add_mod',
    show (-(d.exponent.natAbs : ℤ)) = d.exponent by omega] at h
  unfold Shortest.Decimal.positional Decimal.scaled
  dsimp only
  rw [if_pos hd, if_neg (by rw [beq_iff_eq]; omega)]
  exact h

theorem denotes_whole {d : Shortest.Decimal} (hd : ¬ d.exponent < 0) :
    Denotes (d.positional ++ ['.', '0']) d.value := by
  have h := denotes_point_zero (leading_digits (d.digits * tenPow d.exponent.natAbs))
  have hvalue : ((d.digits * tenPow d.exponent.natAbs * 10 ^ 1 + 0 : ℕ) : ℚ) * 10 ^ (-(1 : ℕ) : ℤ) = d.value := by
    rw [Shortest.Decimal.value, zpow_of_not_neg hd, tenPow_eq, Nat.add_zero, pow_one, Nat.cast_mul, Nat.cast_mul,
      zpow_neg, zpow_natCast, pow_one, Nat.cast_ofNat, mul_inv_cancel_right₀ (by norm_num)]
  rw [Numeral.value_append, value_digits] at h
  unfold Shortest.Decimal.positional
  rw [if_neg hd]
  exact hvalue ▸ h

theorem denotes_scientific (d : Shortest.Decimal) : Denotes d.scientific d.value := by
  intro negative rest hrest
  obtain ⟨c, fs, hcs, hdigit, -⟩ := digits_eq d.digits
  have hfs : ∀ f ∈ fs, f.isDigit = true := by
    intro f hf
    refine isDigit_of_mem_digits (n := d.digits) ?_
    rw [hcs]
    exact List.mem_cons_of_mem c hf
  have hvalue : Numeral.value 0 ([c] ++ fs) = d.digits := by
    rw [List.singleton_append, ← hcs, value_digits]
  have hexponent : d.exponent + (fs.length : ℤ) - fs.length = d.exponent := by omega
  have htext : d.scientific ++ rest = [c] ++ (point fs ++ 'e' ::
      (if d.exponent + (fs.length : ℤ) < 0 then '-' else '+') ::
        (Decimal.digits (d.exponent + (fs.length : ℤ)).natAbs ++ rest)) := by
    unfold Shortest.Decimal.scientific
    dsimp only
    rw [hcs, List.length_cons, Nat.add_sub_cancel]
    cases fs with
    | nil => simp [point]
    | cons f fs => simp [point]
  -- the point moves the exponent up by as many places as the fraction takes it down
  refine ⟨⟨negative, d.digits, d.exponent⟩, ?_, rfl, rfl⟩
  have hpower := fractionAndExponent_power negative [c] (d.exponent + (fs.length : ℤ)) hfs hrest.1
  have hnodigit : NoDigit (point fs ++ 'e' :: (if d.exponent + (fs.length : ℤ) < 0 then '-' else '+') ::
      (Decimal.digits (d.exponent + (fs.length : ℤ)).natAbs ++ rest)) := by
    cases fs with
    | nil => exact .of_cons rfl _
    | cons => exact .of_cons rfl _
  rw [htext, number_digits negative (.single hdigit) hnodigit, hpower, hvalue, hexponent]

theorem denotes_layout (d : Shortest.Decimal) (far : Bool) :
    Denotes (if far then d.scientific else if d.exponent < 0 then d.positional else d.positional ++ ['.', '0'])
      d.value := by
  split
  · exact denotes_scientific d
  · split
    · exact denotes_positional ‹_›
    · exact denotes_whole ‹_›

/-- A number with its sign. -/
def signed (negative : Bool) (cs : List Char) : List Char :=
  if negative then '-' :: cs else cs

/-- The text of a finite float writes a number that is rounded to it. -/
theorem exists_denotes {x : Float} (hx : x.isFinite = true) :
    ∃ negative cs v, Shortest.json x = signed negative cs ∧ Denotes cs v ∧
      ∀ n : Numeral, n.negative = negative → n.magnitude = v → n.toFloat = x := by
  obtain ⟨negative, m, e, hparts⟩ := Binary64.exists_finite hx
  have hme := (Binary64.toBits_of_finite hparts).1
  unfold Shortest.json
  dsimp only
  rw [hparts]
  cases m with
  | zero =>
    refine ⟨negative, _, 0, rfl, denotes_zero, ?_⟩
    rintro n rfl hn
    exact Numeral.toFloat_of_zero hparts hn
  | succ m =>
    refine ⟨negative, _, _, rfl, denotes_layout (Shortest.shortest .toEven (m + 1) e) _, ?_⟩
    rintro n rfl hn
    exact Numeral.toFloat_of_rounds m.succ_pos hparts (hn ▸ Shortest.shortest_rounds .toEven hme m.succ_pos)

theorem number_head {negative : Bool} {cs : List Char} {a : Number × List Char}
    (h : number negative cs = .ok a) : ∃ c tail, cs = c :: tail ∧ c.isDigit = true := by
  unfold number at h
  split at h
  · cases h
  · exact ⟨'0', _, rfl, rfl⟩
  · rename_i c tail _
    split at h
    · exact ⟨c, tail, rfl, ‹_›⟩
    · cases h

variable {floats : FloatRule}

/-- A number is found behind its sign, and its float is the one of its text. -/
theorem numeric_of_number {negative : Bool} {b cs rest : List Char} {n : Number} {x : Float} (hb : Blanks b)
    (h : number negative (cs ++ rest) = .ok (n, rest)) (hx : n.float? floats (signed negative cs) = some x) :
    numeric floats (b ++ (signed negative cs ++ rest)) = .ok ((n, x), rest) := by
  have hfloat : numberWithFloat floats negative (cs ++ rest) = .ok ((n, x), rest) := by
    have htext : (cs ++ rest).take ((cs ++ rest).length - rest.length) = cs := by
      rw [List.length_append, Nat.add_sub_cancel, List.take_left]
    rw [numberWithFloat, h, ok_bind]
    dsimp only
    rw [htext]
    unfold signed at hx
    rw [hx]
  unfold numeric
  rw [skipBlanks_append hb]
  cases negative with
  | true =>
    rw [signed, if_pos rfl, List.cons_append, skipBlanks_cons rfl]
    exact hfloat
  | false =>
    obtain ⟨c, tail, hcs, hc⟩ := number_head h
    rw [signed, if_neg Bool.false_ne_true, hcs, skipBlanks_cons (isBlank_of_isDigit hc)]
    rw [hcs] at hfloat
    split
    · rename_i heq
      cases heq
      cases hc
    · rename_i heq
      cases heq
      rw [if_pos hc]
      exact hfloat
    · rename_i heq
      cases heq

theorem reads_nat (floats : FloatRule) {n limit : ℕ} (hn : n < limit) (hlimit : limit ≤ UInt64.size) :
    Reads (readNat floats limit) (.nat n) n := by
  intro b cs rest hb hw hrest
  cases hw
  have hnumber : number false (Decimal.digits n ++ rest) = .ok (⟨⟨false, n, 0⟩, true⟩, rest) := by
    rw [number_digits false (leading_digits n) hrest.1, fractionAndExponent_ends _ _ hrest, value_digits]
  -- a word has a float whatever the rule says
  have hword : (⟨⟨false, n, 0⟩, true⟩ : Number).float? floats (signed false (Decimal.digits n)) =
      some (Numeral.toFloat ⟨false, n, 0⟩) :=
    if_pos (by rw [Bool.true_and, decide_eq_true_iff]; exact Nat.lt_of_lt_of_le hn hlimit)
  have hnumeric := numeric_of_number hb hnumber hword
  rw [signed, if_neg Bool.false_ne_true] at hnumeric
  rw [readNat, hnumeric, ok_bind]
  dsimp only
  rw [if_pos (by simpa using hn)]

/-- The rule gives every finite float back from its printed text. -/
def FloatRule.ReadsBack (floats : FloatRule) : Prop :=
  ∀ x : Float, x.isFinite = true → floats (Shortest.json x) = some x

theorem reads_float (hfloats : floats.ReadsBack) {x : Float} (hx : x.isFinite = true) :
    Reads (readFloat floats) (.float x) x := by
  intro b cs rest hb hw hrest
  cases hw
  obtain ⟨negative, cs, v, htext, hdenotes, -⟩ := exists_denotes hx
  obtain ⟨n, hnumber, -⟩ := hdenotes negative hrest
  -- the text has a point or an exponent, so it is left to the rule
  have hfloat : (⟨n, false⟩ : Number).float? floats (signed negative cs) = some x := by
    rw [Number.float?, Bool.false_and, if_neg Bool.false_ne_true, ← htext, hfloats x hx]
    exact Option.filter_some_pos hx
  rw [readFloat, htext, numeric_of_number hb hnumber hfloat, ok_map]

/-- To round each number to the nearest float is such a rule, since the text of a float writes a number in
its rounding interval. -/
theorem FloatRule.readsBack_nearest : FloatRule.nearest.ReadsBack := by
  intro x hx
  obtain ⟨negative, cs, v, htext, hdenotes, hround⟩ := exists_denotes hx
  obtain ⟨n, hnumber, hnegative, hmagnitude⟩ := hdenotes negative .nil
  rw [List.append_nil] at hnumber
  have hnearest : nearestFloat? negative cs = some x := by
    rw [nearestFloat?, hnumber]
    exact congrArg some (hround n hnegative hmagnitude)
  rw [htext]
  cases negative with
  | true => exact hnearest
  | false =>
    obtain ⟨c, tail, rfl, hc⟩ := number_head hnumber
    unfold FloatRule.nearest
    split
    · rename_i heq
      cases heq
      cases hc
    · exact hnearest

end Lockstep.Json
