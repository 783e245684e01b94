namespace Lockstep

/-- Points and vectors of the plane, in metres. -/
structure Point where
  x : Float
  y : Float
deriving Inhabited

namespace Point

instance : BEq Point := ⟨fun a b => a.x == b.x && a.y == b.y⟩

def origin : Point := ⟨0.0, 0.0⟩

instance : Add Point := ⟨fun a b => ⟨a.x + b.x, a.y + b.y⟩⟩
instance : Sub Point := ⟨fun a b => ⟨a.x - b.x, a.y - b.y⟩⟩

def scale (a : Point) (k : Float) : Point := ⟨a.x * k, a.y * k⟩

def shrink (a : Point) (k : Float) : Point := ⟨a.x / k, a.y / k⟩

/-- The root of the sum of the squares, without scaling. -/
def norm (a : Point) : Float := (a.x * a.x + a.y * a.y).sqrt

def distance (a b : Point) : Float := (b - a).norm

/-- The point half way between two points. -/
def midpoint (a b : Point) : Point := (a + b).scale 0.5

/-- The direction of a vector, as an angle from the x axis. -/
def heading (a : Point) : Float := Float.atan2 a.y a.x

end Point

end Lockstep
