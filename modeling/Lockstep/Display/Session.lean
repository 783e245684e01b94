import Lockstep.Display.Screen

namespace Lockstep

/-- What is left when a dashboard has been shown. -/
structure Showing where
  result : Except LinkError Unit
  closed : Bool
  secondScreen : Bool
  rows : List String

/-- Shows a dashboard on which the given frames wait to be drawn, until it is closed by a key or by its
signal. One that is closed beforehand draws nothing, and without a terminal none is shown. -/
def Dashboard.display (d : Dashboard) (terminal : Bool) (frames : List Frame) : Showing :=
  if !terminal then
    { result := .error (.display "no terminal"), closed := d.signal.closed, secondScreen := false
      rows := Screen.blankRows }
  else
    { result := .ok (), closed := true, secondScreen := true
      rows := if d.signal.closed then Screen.blankRows else Screen.rows (d.drain frames) }

end Lockstep
