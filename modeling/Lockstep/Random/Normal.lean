import Lockstep.Random.Uniform
import Lockstep.Random.Ziggurat

namespace Lockstep.Normal

/-- Repetitions after which a draw gives up. A point is rejected about once in a hundred draws, so no
stream is expected to get near this. -/
def maxRejections : Nat := 4096

/-- A draw from the tail, on the side of `u`. -/
def tail (u : Float) : Nat → Keystream → Float × Keystream
  | 0, k => (Ziggurat.tailStart, k)
  | tries + 1, k =>
    let (a, k) := Uniform.openUnit k
    let (c, k) := Uniform.openUnit k
    let x := a.log / Ziggurat.tailStart
    let y := c.log
    if -2.0 * y < x * x then tail u tries k
    else (if u < 0.0 then x - Ziggurat.tailStart else Ziggurat.tailStart - x, k)

def standardFor : Nat → Keystream → Float × Keystream
  | 0, k => (0.0, k)
  | tries + 1, k =>
    let (w, k) := k.next64
    let layer := (w &&& 255).toNat
    let u := Float.ofBits ((0x4000000000000000 : UInt64) ||| w >>> 12) - 3.0
    let x := u * Ziggurat.edge layer
    if x.abs < Ziggurat.edge (layer + 1) then (x, k)
    else if layer == 0 then tail u maxRejections k
    else
      let (v, k) := k.next64
      let above := Ziggurat.height (layer + 1)
      let drop := Ziggurat.height layer - above
      if above + drop * ((v >>> 11).toFloat * (1.0 / 9007199254740992.0)) < Float.exp (-x * x / 2.0)
      then (x, k)
      else standardFor tries k

/-- A draw with mean 0 and deviation 1. -/
def standard (k : Keystream) : Float × Keystream :=
  standardFor maxRejections k

/-- A draw with mean 0 and the given deviation. -/
def sample (deviation : Float) (k : Keystream) : Float × Keystream :=
  let (z, k) := standard k
  (0.0 + deviation * z, k)

end Lockstep.Normal
