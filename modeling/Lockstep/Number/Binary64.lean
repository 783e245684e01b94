import Lockstep.Number.Power
import Lockstep.Number.Rounding

/-!
The exact value of a `Float`, and the `Float` nearest to an exact ratio. Texts, durations and
numerals are computed on this view in whole numbers, so that each of them rounds at most once.
-/

namespace Lockstep

/-- What a `Float` stands for. A finite value is `± significand * 2 ^ exponent`, with the significand
below `2 ^ 53` and the exponent at least `-1074`. -/
inductive Binary64 where
  | finite (negative : Bool) (significand : Nat) (exponent : Int)
  | infinite (negative : Bool)
  | nan
deriving DecidableEq, Repr

namespace Binary64

def ofBits (bits : UInt64) : Binary64 :=
  let n := bits.toNat
  let negative := n / twoPow 63 == 1
  let biased : Nat := n / twoPow 52 % 2048
  let fraction := n % twoPow 52
  if biased == 2047 then
    if fraction == 0 then infinite negative else nan
  else if biased == 0 then finite negative fraction (-1074)
  else finite negative (fraction + twoPow 52) (biased - 1075)

def ofFloat (x : Float) : Binary64 :=
  ofBits x.toBits

/-- The sign bit, which a zero has too. -/
def isNegative : Binary64 → Bool
  | finite negative _ _ => negative
  | infinite negative => negative
  | nan => false

/-- `significand * 2 ^ exponent` as numerator and denominator. -/
def ratio (significand : Nat) (exponent : Int) : Nat × Nat :=
  if exponent < 0 then (significand, twoPow exponent.natAbs)
  else (significand * twoPow exponent.natAbs, 1)

/-- The least exponent `e ≥ -1074` for which `num / den` is below `2 ^ 53` units of `2 ^ e`. -/
def unitExponent (num den : Nat) : Int :=
  let guess : Int := (num.log2 : Int) - den.log2 - 53
  let fits : Bool := if guess < 0 then num * twoPow guess.natAbs < twoPow 53 * den
    else num < twoPow 53 * (den * twoPow guess.natAbs)
  max (-1074) (if fits then guess else guess + 1)

/-- The bits of the binary64 value nearest to `num / den`, ties to even. A ratio too large for any
finite value gives the bits of infinity. -/
def magnitudeBits (num den : Nat) : Nat :=
  if num == 0 then 0
  else
    let e := unitExponent num den
    let m := if e < 0 then Rounding.halfEven (num * twoPow e.natAbs) den
      else Rounding.halfEven num (den * twoPow e.natAbs)
    -- a significand that reaches 2 ^ 53 carries into the exponent field by itself
    min ((e + 1074).toNat * twoPow 52 + m) (2047 * twoPow 52)

/-- The `Float` nearest to `± num / den`, ties to even. -/
def nearest (negative : Bool) (num den : Nat) : Float :=
  Float.ofBits (UInt64.ofNat (magnitudeBits num den + if negative then twoPow 63 else 0))

/-- The `Float` nearest to a natural number. -/
def ofNat (n : Nat) : Float :=
  nearest false n 1

end Binary64

/-- The smaller of two values. A NaN gives way to the other value, and of two equal ones, such as the
two zeros, the second is taken. -/
def lesser (a b : Float) : Float :=
  if a.isNaN then b else if b.isNaN || a < b then a else b

/-- The larger of two values, with the same rules as `lesser`. -/
def greater (a b : Float) : Float :=
  if a.isNaN then b else if b.isNaN || b < a then a else b

end Lockstep
