import Lockstep.Display.Bridge
import Lockstep.Run.Driver

namespace Lockstep

/-- The timing of a test, whether and how it is displayed, and when it may stop early. -/
structure Config where
  timing : Timing := ⟨⟨3000000000, by decide⟩, ⟨16666667, by decide⟩⟩
  visualization : Bool := false
  layout : Option String := none
  earlyExit : Bool := false
  pacing : Bool := false
  closeDelays : CloseDelays := ⟨⟨10000000, by decide⟩, ⟨3000000000, by decide⟩⟩
  worldBuffer : Nat := 1
deriving DecidableEq

namespace Config

def withTimeout (c : Config) (timeout : Span) : Config :=
  { c with timing := { c.timing with timeout } }

def withTick (c : Config) (tick : Span) : Config :=
  { c with timing := { c.timing with tick } }

/-- Asks for a display. A displayed run keeps pace with the wall clock, so that it can be
followed. -/
def withVisualization (c : Config) (layout : Option String) : Config :=
  { c with visualization := true, pacing := true, layout }

def withPacing (c : Config) (pacing : Bool) : Config := { c with pacing }

def withEarlyExit (c : Config) (earlyExit : Bool) : Config := { c with earlyExit }

def withCloseDelays (c : Config) (success failure : Span) : Config :=
  { c with closeDelays := ⟨success, failure⟩ }

/-- The layout that counts, which needs a display. -/
def effectiveLayout (c : Config) : Option String :=
  if c.visualization then c.layout else none

def expectedTicks (c : Config) : Nat := c.timing.expectedTicks

def validate (c : Config) : Except RunError Unit :=
  c.timing.validate.mapError .ofTiming

/-- Makes the buffer that a trial needs. For a timing that is not valid there is none to be made. -/
def reserve (c : Config) : Except Panic Unit :=
  match c.validate with
  | .error _ => .ok ()
  | .ok () => Snapshot.reserve c.worldBuffer

end Config

end Lockstep
