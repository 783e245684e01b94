import Lockstep.Number.Decimal
import Lockstep.World.Point

namespace Lockstep

/-- Closed areas of the field. The corners of a rectangle need not be in order, nor the radius of a circle
non-negative. -/
inductive Region where
  | rectangle (min max : Point)
  | circle (center : Point) (radius : Float)

namespace Region

instance : BEq Region where
  beq
    | rectangle a b, rectangle c d => a == c && b == d
    | circle c r, circle d s => c == d && r == s
    | _, _ => false

/-- The rectangle with two given opposite corners. -/
def spanning (a b : Point) : Region :=
  .rectangle ⟨lesser a.x b.x, lesser a.y b.y⟩ ⟨greater a.x b.x, greater a.y b.y⟩

/-- The circle whose radius has the given magnitude. -/
def disc (center : Point) (radius : Float) : Region :=
  .circle center radius.abs

/-- The boundary belongs to the region. -/
def contains : Region → Point → Bool
  | rectangle min max, p => min.x ≤ p.x && p.x ≤ max.x && min.y ≤ p.y && p.y ≤ max.y
  | circle center radius, p => center.distance p ≤ radius

def centre : Region → Point
  | rectangle min max => min.midpoint max
  | circle center _ => center

/-- A point with two places. -/
def pointText (p : Point) : String :=
  s!"({Decimal.fixed 2 p.x}, {Decimal.fixed 2 p.y})"

def text : Region → String
  | rectangle min max => s!"rect[{pointText min}..{pointText max}]"
  | circle center radius => s!"circle[{pointText center} r={Decimal.fixed 2 radius}]"

/-- The playing area of 9 by 6 metres around the origin. -/
def field : Region := spanning ⟨-9.0 / 2.0, -6.0 / 2.0⟩ ⟨9.0 / 2.0, 6.0 / 2.0⟩

/-- The goal on the side of positive x, 1 metre wide and 0.7 deep. -/
def goal : Region := spanning ⟨9.0 / 2.0, -1.0 / 2.0⟩ ⟨9.0 / 2.0 + 0.7, 1.0 / 2.0⟩

/-- The circle of half a metre around the origin. -/
def centreCircle : Region := disc .origin 0.5

end Region

end Lockstep
