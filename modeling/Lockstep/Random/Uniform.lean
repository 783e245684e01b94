import Lockstep.Random.Keystream

namespace Lockstep.Uniform

/-- A float from 1 up to 2 with the high bits of a word as its fraction. -/
def fromWord (w : UInt64) : Float :=
  Float.ofBits ((0x3ff0000000000000 : UInt64) ||| w >>> 12)

/-- The next float below a positive one. -/
def below (x : Float) : Float :=
  Float.ofBits (x.toBits - 1)

/-- The largest scale that keeps every draw at or below `high`. One step down is nearly always
enough, so the number of steps is bounded. -/
def fit (low high : Float) : Nat → Float → Float
  | 0, scale => scale
  | steps + 1, scale =>
    if scale * (1.0 - 1.0 / 4503599627370496.0) + low > high then fit low high steps (below scale)
    else scale

/-- A draw from the closed interval from `low` to `high`. -/
def between (low high : Float) (k : Keystream) : Float × Keystream :=
  let scale := fit low high 64 ((high - low) / (1.0 - 1.0 / 4503599627370496.0))
  let (w, k) := k.next64
  ((fromWord w - 1.0) * scale + low, k)

/-- A draw from the open interval from 0 to 1. -/
def openUnit (k : Keystream) : Float × Keystream :=
  let (w, k) := k.next64
  (fromWord w - (1.0 - 1.0 / 9007199254740992.0), k)

end Lockstep.Uniform
