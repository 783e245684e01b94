import Lockstep.Shared

namespace Lockstep

/-- The request for a display to close. A signal has a flag, which stays up, and room for one wake token,
which the first close leaves behind for a single waiter. Waiters go by the flag: one that finds no
token is not misled. -/
structure CloseSignal where
  closed : Bool := false
  token : Bool := false
deriving DecidableEq

namespace CloseSignal

def close (s : CloseSignal) : CloseSignal :=
  if s.closed then s else { closed := true, token := true }

/-- A wait of limited length: whether the signal is closed, and the signal without the token if the
waiter took it. -/
def waitTimeout (s : CloseSignal) : Bool × CloseSignal :=
  if s.closed then (true, s) else (s.closed, { s with token := false })

/-- A wait without limit, which ends only on a closed signal. -/
def wait? (s : CloseSignal) : Option CloseSignal :=
  let (closed, s) := s.waitTimeout
  if closed then some s else none

/-- What can be done with handles on signals and a display that shows nothing. The display has the
first handle. -/
inductive Step where
  | close (handle : Nat)
  | waitTimeout (handle : Nat)
  | wait (handle : Nat)
  | clone (handle : Nat)
  | fresh
  | closeDisplay
  | showDisplay
deriving DecidableEq

/-- What a step answers. One that would wait for ever is not carried out. -/
inductive Answer where
  | nothing
  | closed (b : Bool)
  | shown
  | wouldBlock
deriving DecidableEq

/-- The signals, and whether the display was shown. -/
structure Scene where
  signals : Shared CloseSignal := .single {}
  shown : Bool := false

/-- Carries out a step. A step through a handle that does not exist has no result. -/
def Step.perform (c : Scene) : Step → Option (Answer × Scene)
  | close handle => (c.signals.read? handle).map fun _ =>
    (.nothing, { c with signals := c.signals.modify handle CloseSignal.close })
  | waitTimeout handle => (c.signals.read? handle).map fun s =>
    (.closed s.waitTimeout.1, { c with signals := c.signals.modify handle fun s => s.waitTimeout.2 })
  | wait handle => (c.signals.read? handle).map fun s =>
    match s.wait? with
    | some s => (.nothing, { c with signals := c.signals.modify handle fun _ => s })
    | none => (.wouldBlock, c)
  | clone handle => (c.signals.clone? handle).map fun signals => (.nothing, { c with signals })
  | fresh => some (.nothing, { c with signals := c.signals.insert {} })
  | closeDisplay => some (.nothing, { c with signals := c.signals.modify 0 CloseSignal.close })
  | showDisplay => (c.signals.read? 0).map fun s =>
    match s.wait? with
    | some s => (.shown, { signals := c.signals.modify 0 fun _ => s, shown := true })
    | none => (.wouldBlock, c)

end CloseSignal

end Lockstep
