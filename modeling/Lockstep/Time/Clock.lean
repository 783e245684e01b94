import Lockstep.Shared
import Lockstep.Time.Span

namespace Lockstep

/-- The clock of simulated time, which only issued ticks move. It counts nanoseconds in a 64 bit word, so an
advance is cut to what a word holds and the sum wraps around. -/
structure Clock where
  count : UInt64 := 0
deriving DecidableEq

namespace Clock

def advance (c : Clock) (s : Span) : Clock :=
  ⟨c.count + UInt64.ofNat (min s.nanos (UInt64.size - 1))⟩

def elapsed (c : Clock) : Span :=
  Span.ofWord c.count

def reset (_ : Clock) : Clock := {}

/-- What can be done with handles on clocks. A copy of a handle shows the same clock. -/
inductive Step where
  | advance (handle : Nat) (s : Span)
  | reset (handle : Nat)
  | clone (handle : Nat)
  | fresh

/-- Carries out a step. A step through a handle that does not exist has no result. -/
def Step.perform (clocks : Shared Clock) : Step → Option (Shared Clock)
  | advance handle s => (clocks.read? handle).map fun _ => clocks.modify handle (·.advance s)
  | reset handle => (clocks.read? handle).map fun _ => clocks.modify handle Clock.reset
  | clone handle => clocks.clone? handle
  | fresh => some (clocks.insert {})

end Clock

end Lockstep
