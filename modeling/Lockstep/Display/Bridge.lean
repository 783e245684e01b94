import Lockstep.Display.Signal
import Lockstep.Run.Outcome

namespace Lockstep

/-- How long a display stays up after a run that passed, and after one that did not. -/
structure CloseDelays where
  success : Span
  failure : Span
deriving DecidableEq

/-- What a display does when it is shown: it waits for its signal, or it gives up with an error. -/
inductive Display where
  | waiting (signal : CloseSignal)
  | failing (error : LinkError) (signal : CloseSignal)

namespace Display

def signal : Display → CloseSignal
  | waiting signal => signal
  | failing _ signal => signal

def close : Display → Display
  | waiting signal => waiting signal.close
  | failing error signal => failing error signal.close

def error? : Display → Option LinkError
  | waiting _ => none
  | failing error _ => some error

end Display

namespace Bridge

/-- The outcome of a call that returned one or broke off. -/
def outcome : Except Panic Outcome → Outcome
  | .ok o => o
  | .error panic => .failedException (.ofPanic panic)

def delay (delays : CloseDelays) (o : Outcome) : Span :=
  if o.isPassed then delays.success else delays.failure

/-- The outcome of a call beside a display, and the display when both have ended. The call goes on in the
background while the display holds the caller; when it has ended, and a delay has passed, it closes the display. -/
def visualized (call : Except Panic Outcome) (display : Display) : Outcome × Display :=
  (outcome call, display.close)

end Bridge

end Lockstep
