import Lockstep.Number.Binary64
import Mathlib

namespace Lockstep.Binary64

open Float.Model Float.Model.UnpackedFloat

/-- The field of the exponent in a word, and the fraction below it. -/
def field (word : ℕ) : ℕ := word / twoPow 52 % 2048

def fraction (word : ℕ) : ℕ := word % twoPow 52

theorem toNat_unpackExponent (b : BitVec Format.binary64.numBits) :
    (unpackExponent b).toNat = field b.toNat := by
  show (BitVec.extractLsb 62 52 b).toNat = _
  rw [BitVec.extractLsb_toNat, Nat.shiftRight_eq_div_pow]
  rfl

theorem toNat_unpackMantissa (b : BitVec Format.binary64.numBits) :
    (unpackMantissa b).toNat = fraction b.toNat := by
  show (BitVec.extractLsb 51 0 b).toNat = _
  rw [BitVec.extractLsb_toNat, Nat.shiftRight_zero]
  rfl

theorem unpackExponent_eq_iff {b : BitVec Format.binary64.numBits} {n : ℕ} (hn : n < 2048) :
    unpackExponent b = BitVec.ofNat 11 n ↔ field b.toNat = n := by
  rw [← BitVec.toNat_inj, toNat_unpackExponent, BitVec.toNat_ofNat]
  rw [show n % 2 ^ Format.binary64.exponentBits = n from Nat.mod_eq_of_lt hn]

theorem unpackMantissa_eq_zero_iff {b : BitVec Format.binary64.numBits} :
    unpackMantissa b = 0#52 ↔ fraction b.toNat = 0 := by
  rw [← BitVec.toNat_inj, toNat_unpackMantissa]
  rfl

/-- The parts of a word make the word. -/
theorem packComponents_unpack {b : BitVec Format.binary64.numBits} {e : BitVec 11} {m : BitVec 52}
    (he : unpackExponent b = e) (hm : unpackMantissa b = m) :
    packComponents .binary64 (Sign.ofBitVec (unpackSign b)) e m = b := by
  have hsign : ∀ v : BitVec 1, (Sign.ofBitVec v).toBitVec = v := by decide
  subst he hm
  simp only [packComponents, hsign, unpackSign, unpackExponent, unpackMantissa, BitVec.extractLsb]
  ext i hi
  grind

/-- What a word is unpacked to, by its field and its fraction. -/
inductive Unpacks (b : BitVec Format.binary64.numBits) : UnpackedFloat → Prop
  | infinite (hfield : field b.toNat = 2047) (hfraction : fraction b.toNat = 0) :
      Unpacks b (.infinity (.ofBitVec (unpackSign b)))
  | nan (hfield : field b.toNat = 2047) (hfraction : fraction b.toNat ≠ 0) : Unpacks b .notANumber
  | zero (hfield : field b.toNat = 0) (hfraction : fraction b.toNat = 0) :
      Unpacks b (.zero (.ofBitVec (unpackSign b)))
  | subnormal {m : ℕ} {e : Int} {hpos : 0 < m} (hfield : field b.toNat = 0)
      (hm : m = fraction b.toNat) (he : e = -1074) :
      Unpacks b (.finite (.ofBitVec (unpackSign b)) m e hpos)
  | normal {m : ℕ} {e : Int} {hpos : 0 < m} (hfield : field b.toNat ≠ 0)
      (hfinite : field b.toNat ≠ 2047) (hm : m = 2 ^ 52 + fraction b.toNat)
      (he : e = (field b.toNat : Int) - 1075) : Unpacks b (.finite (.ofBitVec (unpackSign b)) m e hpos)

theorem unpacks (b : BitVec Format.binary64.numBits) : Unpacks b (UnpackedFloat.unpack .binary64 b) := by
  have hbias : ((Format.binary64.exponentBias : ℕ) : Int) + Format.binary64.mantissaBitsWithoutImplicit =
      1075 := rfl
  rw [UnpackedFloat.unpack]
  split
  · rename_i hones
    have hfield : field b.toNat = 2047 := (unpackExponent_eq_iff (by decide)).mp hones
    split
    · rename_i hzero
      exact .infinite hfield (unpackMantissa_eq_zero_iff.mp hzero)
    · rename_i hzero
      exact .nan hfield fun h => hzero (unpackMantissa_eq_zero_iff.mpr h)
  · rename_i hones
    split
    · rename_i hempty
      have hfield : field b.toNat = 0 := (unpackExponent_eq_iff (by decide)).mp hempty
      split
      · rename_i hzero
        exact .zero hfield (unpackMantissa_eq_zero_iff.mp hzero)
      · refine .subnormal hfield (toNat_unpackMantissa b) ?_
        rw [toNat_unpackExponent, hfield, hbias]
        rfl
    · rename_i hempty
      refine .normal (fun h => hempty ((unpackExponent_eq_iff (by decide)).mpr h))
        (fun h => hones ((unpackExponent_eq_iff (by decide)).mpr h)) ?_ ?_
      · have hlt : (unpackMantissa b).toNat < 2 ^ 52 := (unpackMantissa b).isLt
        rw [← toNat_unpackMantissa, BitVec.toNat_append, ← Nat.shiftLeft_add_eq_or_of_lt hlt]
        rfl
      · rw [toNat_unpackExponent, hbias]

/-- Unpacking loses nothing of a word but what distinguishes the NaNs. -/
theorem pack_unpack {b : BitVec Format.binary64.numBits} (hvalid : Format.binary64.Valid b) :
    UnpackedFloat.pack .binary64 (UnpackedFloat.unpack .binary64 b) = b := by
  have hfield_lt : field b.toNat < 2048 := Nat.mod_lt _ (by decide)
  have hfraction_lt : fraction b.toNat < 2 ^ 52 := Nat.mod_lt _ (by decide)
  have hexponent {n : ℕ} (hn : n < 2048) (h : field b.toNat = n) :
      unpackExponent b = BitVec.ofNat 11 n := (unpackExponent_eq_iff hn).mpr h
  have hmantissa {m : ℕ} (h : m % 2 ^ 52 = fraction b.toNat) : unpackMantissa b = BitVec.ofNat 52 m := by
    rw [← BitVec.toNat_inj, toNat_unpackMantissa, BitVec.toNat_ofNat]
    exact h.symm
  have hunpacks := unpacks b
  generalize UnpackedFloat.unpack .binary64 b = u at hunpacks
  -- for each kind of number the exponent and the mantissa that are packed are those of the word
  cases hunpacks with
  | infinite hfield hfraction =>
    exact packComponents_unpack (hexponent (by decide) hfield) (unpackMantissa_eq_zero_iff.mpr hfraction)
  | nan hfield hfraction =>
    have hzero : unpackMantissa b ≠ 0#52 := fun h => hfraction (unpackMantissa_eq_zero_iff.mp h)
    exact (hvalid.eq_packedNaN (hexponent (by decide) hfield) hzero).symm
  | zero hfield hfraction =>
    exact packComponents_unpack (hexponent (by decide) hfield) (unpackMantissa_eq_zero_iff.mpr hfraction)
  | @subnormal m e hpos hfield hm he =>
    -- too short for the hidden bit
    have hlog : ¬ m.log2 + 1 = Format.binary64.mantissaBits := by
      intro h
      have hle : 52 ≤ m.log2 := Nat.le_of_eq (Nat.succ.inj h).symm
      have := (Nat.le_log2 (Nat.ne_of_gt hpos)).mp hle
      omega
    subst he
    rw [UnpackedFloat.pack]
    dsimp only
    rw [if_neg (by decide), if_neg hlog]
    refine packComponents_unpack (hexponent (by decide) hfield) (hmantissa ?_)
    rw [hm, Nat.mod_eq_of_lt hfraction_lt]
  | @normal m e hpos hfield hfinite hm he =>
    have hlog : m.log2 + 1 = Format.binary64.mantissaBits := by
      have hle : 52 ≤ m.log2 := (Nat.le_log2 (Nat.ne_of_gt hpos)).mpr (by omega)
      have hlt : ¬ 53 ≤ m.log2 := by
        intro h
        have := (Nat.le_log2 (Nat.ne_of_gt hpos)).mp h
        omega
      show m.log2 + 1 = 53
      omega
    have hbiased : (e + Format.binary64.exponentBias + Format.binary64.mantissaBitsWithoutImplicit).toNat =
        field b.toNat := by
      show (e + 1023 + 52).toNat = _
      omega
    rw [UnpackedFloat.pack]
    dsimp only
    rw [hbiased, if_neg (show ¬ 2048 ≤ _ by omega), if_pos hlog]
    refine packComponents_unpack (hexponent hfield_lt rfl) (hmantissa ?_)
    rw [hm, Nat.add_mod_left, Nat.mod_eq_of_lt hfraction_lt]

theorem ofBits_toBits (x : Float) : Float.ofBits x.toBits = x := by
  obtain ⟨⟨word, hvalid⟩⟩ := x
  have hword : UInt64.ofBitVec (UnpackedFloat.pack .binary64 (UnpackedFloat.unpack .binary64 word.toBitVec)) =
      word := congrArg UInt64.ofBitVec (pack_unpack hvalid)
  simp only [Float.ofBits, Float.toBits, Float.Model.ofBits, Float.Model.pack, hword]

/-- Every word is that of its float, except for NaNs. -/
theorem toBits_ofBits {word : UInt64}
    (h : field word.toNat = 2047 → fraction word.toNat = 0) : (Float.ofBits word).toBits = word := by
  have hvalid : Format.binary64.Valid word.toBitVec := by
    constructor
    intro hexponent hmantissa
    exact absurd (unpackMantissa_eq_zero_iff.mpr (h ((unpackExponent_eq_iff (by decide)).mp hexponent))) hmantissa
  exact congrArg UInt64.ofBitVec (pack_unpack hvalid)

theorem isFinite_iff (x : Float) : x.isFinite = true ↔ field x.toBits.toNat ≠ 2047 := by
  have hunpacks := unpacks x.toBits.toBitVec
  show (UnpackedFloat.unpack .binary64 x.toBits.toBitVec).isFinite = true ↔ _
  generalize UnpackedFloat.unpack .binary64 x.toBits.toBitVec = u at hunpacks
  cases hunpacks with
  | infinite hfield | nan hfield => exact ⟨nofun, fun h => absurd hfield h⟩
  | zero hfield | subnormal hfield =>
    refine ⟨fun _ h => ?_, fun _ => rfl⟩
    have := hfield.symm.trans h
    cases this
  | normal _ hfinite => exact ⟨fun _ => hfinite, fun _ => rfl⟩

end Lockstep.Binary64
