import Lockstep.Proofs.Json.Lexemes
import Lockstep.Run.RunId
import Mathlib.Algebra.Group.Nat.Defs

namespace Lockstep.RunId

theorem value_nibbles (k n : ℕ) :
    Hex.value ((List.range k).map fun i => n >>> (4 * (k - 1 - i)) % 16) = n % 16 ^ k := by
  induction k generalizing n with
  | zero => exact (Nat.mod_one n).symm
  | succ k ih =>
    -- all digits but the last one are those of a sixteenth
    have hfirst : ((List.range k).map fun i => n >>> (4 * (k + 1 - 1 - i)) % 16) =
        (List.range k).map fun i => (n / 16) >>> (4 * (k - 1 - i)) % 16 := by
      refine List.map_congr_left fun i hi => ?_
      have hlt := List.mem_range.mp hi
      rw [show 4 * (k + 1 - 1 - i) = 4 + 4 * (k - 1 - i) by omega, Nat.shiftRight_add,
        Nat.shiftRight_eq_div_pow n 4]
    have hlast : 4 * (k + 1 - 1 - k) = 0 := by omega
    have hstep (ds : List ℕ) (d : ℕ) : Hex.value (ds ++ [d]) = 16 * Hex.value ds + d := by
      rw [Hex.value, List.foldl_append]
      rfl
    rw [List.range_succ, List.map_append, hfirst, List.map_singleton, hlast, hstep, ih, Nat.shiftRight_zero,
      Nat.pow_succ', Nat.mod_mul]
    omega

theorem mapM_digit? {ds : List ℕ} (hds : ∀ d ∈ ds, d < 16) :
    (ds.map Nat.digitChar).mapM Hex.digit? = some ds := by
  induction ds with
  | nil => rfl
  | cons d ds ih =>
    rw [List.map_cons, List.mapM_cons, Json.digit?_digitChar (hds d List.mem_cons_self),
      ih fun d hd => hds d (List.mem_cons_of_mem _ hd)]
    rfl

theorem ofDigits?_digits (id : RunId) : ofDigits? id.digits = some id := by
  have hdigits : id.digits = ((List.range 32).map fun i => id.bits.toNat >>> (4 * (32 - 1 - i)) % 16).map
      Nat.digitChar := by
    rw [List.map_map]
    rfl
  have hlength : id.digits.length = 32 := by rw [digits, List.length_map, List.length_range]
  have hlt : id.bits.toNat < 16 ^ 32 := id.bits.isLt
  rw [ofDigits?, if_pos hlength, hdigits, mapM_digit?]
  · rw [Option.map_some, value_nibbles, Nat.mod_eq_of_lt hlt, BitVec.ofNat_toNat, BitVec.setWidth_eq]
  · intro d hd
    obtain ⟨i, -, rfl⟩ := List.mem_map.mp hd
    exact Nat.mod_lt _ (by decide)

theorem ofText?_text (id : RunId) : ofText? id.text = some id := by
  rw [← ofDigits?_digits id, ofText?, text]
  unfold digits
  generalize (fun i => Nat.digitChar (id.bits.toNat >>> (4 * (31 - i)) % 16)) = digit
  -- which digits there are does not matter to where the hyphens stand
  rw [String.toList_ofList]
  rfl

end Lockstep.RunId
