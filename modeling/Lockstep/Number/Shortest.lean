import Lockstep.Number.Decimal

namespace Lockstep.Shortest

/-- The decimal `digits * 10 ^ exponent`. -/
structure Decimal where
  digits : Nat
  exponent : Int
deriving DecidableEq, Repr

/-- Which of two equally near decimals is taken. -/
inductive Tie where
  | toEven
  | up
deriving DecidableEq

/-- A positive float and the ends of the interval that rounds to it, as numerators over one
denominator. The ends belong to the interval when the significand is even. -/
structure Interval where
  low : Nat
  value : Nat
  high : Nat
  den : Nat
  closed : Bool

/-- The interval around `significand * 2 ^ exponent`. Below a power of two the spacing of the floats
is half of that above, except at the smallest normal value. -/
def Interval.around (significand : Nat) (exponent : Int) : Interval :=
  let (num, den) := Binary64.ratio significand exponent
  let unit := if exponent < 0 then 1 else twoPow exponent.natAbs
  let below := if significand == twoPow 52 && exponent > -1074 then unit else 2 * unit
  { low := 4 * num - below, value := 4 * num, high := 4 * num + 2 * unit, den := 4 * den
    closed := significand % 2 == 0 }

/-- Whether `n / den` lies in the interval. -/
def Interval.holds (i : Interval) (n : Nat) : Bool :=
  if i.closed then i.low ≤ n && n ≤ i.high else i.low < n && n < i.high

/-- The same interval in units of `10 ^ exponent`. -/
def Interval.inUnits (i : Interval) (exponent : Int) : Interval :=
  if exponent < 0 then
    let k := tenPow exponent.natAbs
    { i with low := i.low * k, value := i.value * k, high := i.high * k }
  else { i with den := i.den * tenPow exponent.natAbs }

/-- The integer nearest to the value among its two neighbours that lie in the interval. -/
def Interval.candidate? (tie : Tie) (i : Interval) : Option Nat :=
  let q := i.value / i.den
  let below := i.holds (q * i.den)
  let above := i.holds ((q + 1) * i.den)
  match below, above with
  | true, true =>
    let r := 2 * (i.value - q * i.den)
    if r < i.den then some q
    else if i.den < r then some (q + 1)
    else match tie with
      | .toEven => some (q + q % 2)
      | .up => some (q + 1)
  | true, false => some q
  | false, true => some (q + 1)
  | false, false => none

/-- The exponent of the first decimal digit of `num / den`. -/
def leadExponent (num den : Nat) : Int :=
  let guess : Int := ((num.log2 : Int) - den.log2 - 1) * 30103 / 100000
  let reaches (k : Int) : Bool :=
    if k < 0 then den ≤ num * tenPow k.natAbs else den * tenPow k.natAbs ≤ num
  if reaches (guess + 1) then (if reaches (guess + 2) then guess + 2 else guess + 1)
  else if reaches guess then guess else guess - 1

/-- The first grid with a candidate, from the coarsest of the `remaining` grids on. -/
def search (tie : Tie) (i : Interval) (exponent : Int) : Nat → Decimal
  | 0 => ⟨0, 0⟩
  | remaining + 1 =>
    match (i.inUnits exponent).candidate? tie with
    | some d => ⟨d, exponent⟩
    | none => search tie i (exponent - 1) remaining

/-- Drops the zeros at the end of the digits. -/
def Decimal.trim (d : Decimal) : Nat → Decimal
  | 0 => d
  | fuel + 1 =>
    if d.digits % 10 == 0 && d.digits != 0 then
      Decimal.trim ⟨d.digits / 10, d.exponent + 1⟩ fuel
    else d

/-- The shortest decimal that reads back as `significand * 2 ^ exponent`, for a positive
significand. Seventeen digits always suffice. -/
def shortest (tie : Tie) (significand : Nat) (exponent : Int) : Decimal :=
  let i := Interval.around significand exponent
  (search tie i (leadExponent i.value i.den + 1) 19).trim 19

/-- The digits in positional notation, with a point only where a fraction needs one. -/
def Decimal.positional (d : Decimal) : List Char :=
  if d.exponent < 0 then Lockstep.Decimal.scaled d.exponent.natAbs d.digits
  else Lockstep.Decimal.digits (d.digits * tenPow d.exponent.natAbs)

/-- The digits with a point after the first one and a signed exponent. -/
def Decimal.scientific (d : Decimal) : List Char :=
  let ds := Lockstep.Decimal.digits d.digits
  let e := d.exponent + (ds.length - 1 : Nat)
  let mantissa := match ds with
    | [] => []
    | [c] => [c]
    | c :: rest => c :: '.' :: rest
  mantissa ++ 'e' :: (if e < 0 then '-' else '+') :: Lockstep.Decimal.digits e.natAbs

/-- Always positional, never with an exponent. -/
def plain (x : Float) : String :=
  let sign (negative : Bool) (text : List Char) := if negative then '-' :: text else text
  match Binary64.ofFloat x with
  | .nan => "NaN"
  | .infinite negative => String.ofList (sign negative "inf".toList)
  | .finite negative 0 _ => String.ofList (sign negative ['0'])
  | .finite negative significand exponent =>
    String.ofList (sign negative (shortest .up significand exponent).positional)

/-- The JSON number of a finite float: positional with at least one place while the first digit
stands for `10 ^ -5` to `10 ^ 15`, with an exponent otherwise. JSON has no other floats; they are
written `null`. -/
def json (x : Float) : List Char :=
  let sign (negative : Bool) (text : List Char) := if negative then '-' :: text else text
  match Binary64.ofFloat x with
  | .finite negative 0 _ => sign negative ['0', '.', '0']
  | .finite negative significand exponent =>
    let d := shortest .toEven significand exponent
    let lead := d.exponent + (Lockstep.Decimal.digits d.digits).length - 1
    sign negative <|
      if lead < -5 || 15 < lead then d.scientific
      else if d.exponent < 0 then d.positional
      else d.positional ++ ['.', '0']
  | _ => "null".toList

end Lockstep.Shortest
