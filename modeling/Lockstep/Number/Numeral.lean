import Lockstep.Number.Binary64

namespace Lockstep

/-- The decimal number `± digits * 10 ^ exponent`. -/
structure Numeral where
  negative : Bool
  digits : Nat
  exponent : Int
deriving DecidableEq, Repr

namespace Numeral

/-- The value of a string of decimal digits, continuing from `start`. -/
def value (start : Nat) (ds : List Char) : Nat :=
  ds.foldl (fun n c => 10 * n + (c.toNat - '0'.toNat)) start

/-- The float nearest to the numeral, infinite when it is too large. A first digit beyond
`10 ^ 400` or below `10 ^ -400` decides without the power of ten being computed. -/
def toFloat (n : Numeral) : Float :=
  let lead := (Nat.toDigits 10 n.digits).length + n.exponent
  if n.digits == 0 || lead < -400 then Binary64.nearest n.negative 0 1
  else if 400 < lead then Binary64.nearest n.negative (twoPow 1024) 1
  else if n.exponent < 0 then Binary64.nearest n.negative n.digits (tenPow n.exponent.natAbs)
  else Binary64.nearest n.negative (n.digits * tenPow n.exponent.natAbs) 1

/-- A possible sign and the text after it. -/
def sign : List Char → Bool × List Char
  | '-' :: rest => (true, rest)
  | '+' :: rest => (false, rest)
  | rest => (false, rest)

/-- A signed exponent that is nothing but digits. -/
def exponent? (text : List Char) : Option Int :=
  let (negative, ds) := sign text
  if ds.isEmpty || !ds.all Char.isDigit then none
  else some (if negative then -(value 0 ds : Int) else value 0 ds)

/-- A numeral without its sign: digits with a possible point before, among or after them, and a
possible exponent. -/
def unsigned? (negative : Bool) (text : List Char) : Option Numeral :=
  let whole := text.takeWhile Char.isDigit
  let rest := text.dropWhile Char.isDigit
  let (places, rest) := match rest with
    | '.' :: tail => (tail.takeWhile Char.isDigit, tail.dropWhile Char.isDigit)
    | _ => ([], rest)
  if whole.isEmpty && places.isEmpty then none
  else
    let number (e : Int) : Numeral := ⟨negative, value 0 (whole ++ places), e - places.length⟩
    match rest with
    | [] => some (number 0)
    | 'e' :: tail | 'E' :: tail => (exponent? tail).map number
    | _ => none

end Numeral

/-- Reads a float: a numeral with a possible sign, or an infinity or NaN by name in any case. -/
def float? (text : String) : Option Float :=
  let (negative, rest) := Numeral.sign text.toList
  let name := String.ofList (rest.map Char.toLower)
  if name == "inf" || name == "infinity" then some (if negative then -1.0 / 0.0 else 1.0 / 0.0)
  else if name == "nan" then some (0.0 / 0.0)
  else (Numeral.unsigned? negative rest).map Numeral.toFloat

/-- Reads a natural number below `limit`: decimal digits after a possible plus sign. -/
def nat? (limit : Nat) (text : String) : Option Nat :=
  let ds := match text.toList with
    | '+' :: rest => rest
    | all => all
  if ds.isEmpty || !ds.all Char.isDigit then none
  else
    let n := Numeral.value 0 ds
    if n < limit then some n else none

end Lockstep
