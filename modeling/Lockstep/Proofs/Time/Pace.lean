import Lockstep.Time.Clock
import Lockstep.Time.Timing
import Mathlib.Algebra.Order.Floor.Div

namespace Lockstep

namespace Span

/-- So many of a span, cut to the longest span. -/
def times (s : Span) (n : ℕ) : Span :=
  ⟨min (n * s.nanos) 18446744073709551615999999999, by omega⟩

theorem nanos_times {s : Span} {n : ℕ} (h : n * s.nanos < 2 ^ 64) : (s.times n).nanos = n * s.nanos := by
  unfold times
  dsimp only
  omega

end Span

namespace Clock

theorem toNat_count_advance_mod (c : Clock) (s : Span) :
    (c.advance s).count.toNat = (c.count.toNat + min s.nanos (2 ^ 64 - 1)) % 2 ^ 64 := by
  have hsize : UInt64.size - 1 = 2 ^ 64 - 1 := rfl
  rw [advance, UInt64.toNat_add, hsize, UInt64.toNat_ofNat', Nat.add_mod_mod]

/-- An advance is exact as long as the sum fits into a word. -/
theorem toNat_count_advance {c : Clock} {s : Span} (h : c.count.toNat + s.nanos < 2 ^ 64) :
    (c.advance s).count.toNat = c.count.toNat + s.nanos := by
  rw [toNat_count_advance_mod]
  omega

/-- After any number of advances the clock has wrapped around as often as the word ran over. -/
theorem toNat_count_iterate_mod (c : Clock) (s : Span) (n : ℕ) :
    ((·.advance s)^[n] c).count.toNat =
      (c.count.toNat + n * min s.nanos (2 ^ 64 - 1)) % 2 ^ 64 := by
  induction n with
  | zero =>
    rw [Function.iterate_zero_apply, Nat.zero_mul, Nat.add_zero]
    exact (Nat.mod_eq_of_lt c.count.toNat_lt).symm
  | succ n ih =>
    rw [Function.iterate_succ_apply', toNat_count_advance_mod, ih, Nat.mod_add_mod, Nat.succ_mul,
      Nat.add_assoc]

theorem toNat_count_iterate {c : Clock} {s : Span} {n : ℕ}
    (h : c.count.toNat + n * s.nanos < 2 ^ 64) :
    ((·.advance s)^[n] c).count.toNat = c.count.toNat + n * s.nanos := by
  have hcut : n * min s.nanos (2 ^ 64 - 1) = n * s.nanos := by
    cases n with
    | zero => rw [Nat.zero_mul, Nat.zero_mul]
    | succ n =>
      have hle : s.nanos ≤ (n + 1) * s.nanos := Nat.le_mul_of_pos_left s.nanos (Nat.succ_pos n)
      rw [Nat.min_eq_left (by omega)]
  rw [toNat_count_iterate_mod, hcut, Nat.mod_eq_of_lt h]

end Clock

namespace Timing

/-- The ticks of a run that goes on until its timeout, `⌈timeout / tick⌉`. -/
def fullTicks (t : Timing) : ℕ := t.timeout.nanos ⌈/⌉ t.tick.nanos

theorem lt_fullTicks_iff {t : Timing} (ht : t.Valid) (i : ℕ) :
    i < t.fullTicks ↔ i * t.tick.nanos < t.timeout.nanos := by
  have h : t.fullTicks ≤ i ↔ t.timeout.nanos ≤ t.tick.nanos • i := ceilDiv_le_iff_le_smul ht.1
  rw [smul_eq_mul, Nat.mul_comm] at h
  omega

theorem fullTicks_pos {t : Timing} (ht : t.Valid) : 0 < t.fullTicks := by
  rw [lt_fullTicks_iff ht, Nat.zero_mul]
  exact Nat.lt_of_lt_of_le ht.1 ht.2

/-- The last tick of a run goes beyond the timeout by less than its own length. -/
theorem mul_lt_of_le_fullTicks {t : Timing} (ht : t.Valid) {i : ℕ} (hi : i ≤ t.fullTicks) :
    i * t.tick.nanos < t.timeout.nanos + t.tick.nanos := by
  have htick : 0 < t.tick.nanos := ht.1
  cases i with
  | zero => omega
  | succ i =>
    have h := (lt_fullTicks_iff ht i).mp hi
    rw [Nat.succ_mul]
    omega

/-- What a clock that was started for the run shows after so many ticks, in nanoseconds. -/
def shownAfter (t : Timing) (n : ℕ) : ℕ := n * min t.tick.nanos (2 ^ 64 - 1) % 2 ^ 64

theorem shownAfter_lt (t : Timing) (n : ℕ) : t.shownAfter n < 2 ^ 64 :=
  Nat.mod_lt _ (by decide)

theorem shownAfter_of_lt {t : Timing} {n : ℕ} (htick : t.tick.nanos < 2 ^ 64)
    (h : n * t.tick.nanos < 2 ^ 64) : t.shownAfter n = n * t.tick.nanos := by
  rw [shownAfter, Nat.min_eq_left (by omega), Nat.mod_eq_of_lt h]

/-- The time of so many ticks is what a clock shows after them as long as it has not run over. -/
theorem shownAfter_eq_iff {t : Timing} {n : ℕ} (hn : 0 < n) :
    t.shownAfter n = n * t.tick.nanos ↔ n * t.tick.nanos < 2 ^ 64 := by
  constructor
  · intro h
    rw [← h]
    exact t.shownAfter_lt n
  · intro h
    have hle : t.tick.nanos ≤ n * t.tick.nanos := Nat.le_mul_of_pos_left _ hn
    exact shownAfter_of_lt (lt_of_le_of_lt hle h) h

theorem shownAfter_div_eq_iff {t : Timing} (ht : t.Valid) {n : ℕ} (hn : 0 < n) :
    t.shownAfter n / t.tick.nanos = n ↔ n * t.tick.nanos < 2 ^ 64 := by
  constructor
  · intro h
    calc n * t.tick.nanos
        = t.shownAfter n / t.tick.nanos * t.tick.nanos := by rw [h]
      _ ≤ t.shownAfter n := Nat.div_mul_le_self _ _
      _ < 2 ^ 64 := t.shownAfter_lt n
  · intro h
    rw [(shownAfter_eq_iff hn).mpr h]
    exact Nat.mul_div_cancel n ht.1

/-- The clock that has gone through all words is where it was. -/
theorem shownAfter_mod (t : Timing) (n : ℕ) : t.shownAfter (n % 2 ^ 64) = t.shownAfter n := by
  rw [shownAfter, shownAfter, Nat.mod_mul_mod]

/-- The cut to a word aside, these are the expected ticks. -/
theorem expectedTicks_eq {t : Timing} (ht : t.Valid) :
    t.expectedTicks = min t.fullTicks (2 ^ 64 - 1) := by
  have hne : t.tick.nanos ≠ 0 := Nat.pos_iff_ne_zero.mp ht.1
  rw [expectedTicks, if_neg hne, fullTicks, Nat.ceilDiv_eq_add_pred_div]
  rfl

/-- The time is up after the expected ticks, and not before, exactly if the clock does not run over. -/
theorem isLeast_expectedTicks_iff {t : Timing} (ht : t.Valid) :
    IsLeast {i | t.timeout.nanos ≤ t.shownAfter i} t.expectedTicks ↔
      t.fullTicks * t.tick.nanos < 2 ^ 64 := by
  have htick : 0 < t.tick.nanos := ht.1
  have hle : t.tick.nanos ≤ t.timeout.nanos := ht.2
  have hpast : t.timeout.nanos ≤ t.fullTicks * t.tick.nanos :=
    Nat.not_lt.mp fun h => lt_irrefl _ ((lt_fullTicks_iff ht t.fullTicks).mpr h)
  have hnext := mul_lt_of_le_fullTicks ht (le_refl t.fullTicks)
  have hword : t.fullTicks ≤ t.fullTicks * t.tick.nanos := Nat.le_mul_of_pos_right _ htick
  constructor
  · rintro ⟨hup, -⟩
    have hup : t.timeout.nanos ≤ t.shownAfter t.expectedTicks := hup
    -- the timeout is a word, and so are the ticks in it
    have hfits : t.timeout.nanos < 2 ^ 64 := lt_of_le_of_lt hup (t.shownAfter_lt t.expectedTicks)
    have hticks : t.fullTicks ≤ t.timeout.nanos := by
      by_contra hlt
      have hall := (lt_fullTicks_iff ht t.timeout.nanos).mp (by omega)
      have hmul : t.timeout.nanos ≤ t.timeout.nanos * t.tick.nanos :=
        Nat.le_mul_of_pos_right _ htick
      omega
    rw [expectedTicks_eq ht, Nat.min_eq_left (by omega), shownAfter,
      Nat.min_eq_left (by omega)] at hup
    -- a clock that ran over would show less than the timeout
    by_contra hover
    omega
  · intro hroom
    have hexact {i : ℕ} (hi : i ≤ t.fullTicks) : t.shownAfter i = i * t.tick.nanos := by
      have hi' : i * t.tick.nanos ≤ t.fullTicks * t.tick.nanos := Nat.mul_le_mul_right _ hi
      exact shownAfter_of_lt (by omega) (by omega)
    rw [expectedTicks_eq ht, Nat.min_eq_left (by omega)]
    constructor
    · show t.timeout.nanos ≤ t.shownAfter t.fullTicks
      rw [hexact le_rfl]
      exact hpast
    · intro i hi
      by_contra hlt
      have hi : t.timeout.nanos ≤ t.shownAfter i := hi
      have hbefore := (lt_fullTicks_iff ht i).mp (Nat.not_le.mp hlt)
      rw [hexact (by omega)] at hi
      omega

end Timing

end Lockstep
