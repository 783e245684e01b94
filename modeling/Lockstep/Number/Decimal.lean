import Lockstep.Number.Binary64

namespace Lockstep.Decimal

/-- The decimal digits of a natural number, without leading zeros. -/
def digits (n : Nat) : List Char :=
  Nat.toDigits 10 n

def nat (n : Nat) : String :=
  String.ofList (digits n)

/-- The digits of `n`, led by zeros up to `width`. -/
def padded (width n : Nat) : List Char :=
  let ds := digits n
  List.replicate (width - ds.length) '0' ++ ds

/-- A number of units of `10 ^ -places` as a decimal fraction. -/
def scaled (places units : Nat) : List Char :=
  let whole := digits (units / tenPow places)
  if places == 0 then whole else whole ++ '.' :: padded places (units % tenPow places)

private def signed (negative : Bool) (text : List Char) : String :=
  String.ofList (if negative then '-' :: text else text)

/-- A float rounded to a fixed number of places. Halves go to the even neighbour, and a negative value keeps its
sign when it rounds to zero. -/
def fixed (places : Nat) (x : Float) : String :=
  match Binary64.ofFloat x with
  | .nan => "NaN"
  | .infinite negative => signed negative "inf".toList
  | .finite negative significand exponent =>
    let (num, den) := Binary64.ratio significand exponent
    signed negative (scaled places (Rounding.halfEven (num * tenPow places) den))

end Lockstep.Decimal
