import Lockstep.Time.Span

namespace Lockstep

/-- How long a run lasts and how long a tick is. -/
structure Timing where
  timeout : Span
  tick : Span
deriving DecidableEq

/-- Why a timing is refused. -/
inductive TimingError where
  | zeroTick
  | tickExceedsTimeout (tick timeout : Span)
deriving DecidableEq

def TimingError.message : TimingError → String
  | zeroTick => "tick duration must be greater than zero"
  | tickExceedsTimeout tick timeout => s!"tick duration {tick.text} exceeds timeout {timeout.text}"

namespace Timing

/-- A tick is positive and no longer than the run. -/
def Valid (t : Timing) : Prop :=
  0 < t.tick.nanos ∧ t.tick ≤ t.timeout

instance (t : Timing) : Decidable t.Valid := inferInstanceAs (Decidable (_ ∧ _))

def validate (t : Timing) : Except TimingError Unit :=
  if t.tick.nanos = 0 then .error .zeroTick
  else if t.timeout < t.tick then .error (.tickExceedsTimeout t.tick t.timeout)
  else .ok ()

theorem validate_eq_ok_iff {t : Timing} : t.validate = .ok () ↔ t.Valid := by
  show validate t = .ok () ↔ 0 < t.tick.nanos ∧ t.tick.nanos ≤ t.timeout.nanos
  have h : (t.timeout < t.tick) = (t.timeout.nanos < t.tick.nanos) := rfl
  simp only [validate, h]
  split
  · simp; omega
  · split
    · simp; omega
    · simp; omega

theorem exists_validate_eq_error {t : Timing} (h : ¬ t.Valid) : ∃ e, t.validate = .error e := by
  rw [← validate_eq_ok_iff] at h
  cases hvalidate : t.validate with
  | ok _ => exact absurd hvalidate h
  | error e => exact ⟨e, rfl⟩

/-- The ticks that begin before the timeout, `⌈timeout / tick⌉`, cut to a 64 bit word. A tick of
zero length gives none. -/
def expectedTicks (t : Timing) : Nat :=
  if t.tick.nanos = 0 then 0
  else min ((t.timeout.nanos + t.tick.nanos - 1) / t.tick.nanos) (UInt64.size - 1)

end Timing

end Lockstep
