namespace Lockstep.Hex

/-- A digit in either case. -/
def digit? (c : Char) : Option Nat :=
  if c.isDigit then some (c.toNat - '0'.toNat)
  else if 'a' ≤ c && c ≤ 'f' then some (c.toNat - 'a'.toNat + 10)
  else if 'A' ≤ c && c ≤ 'F' then some (c.toNat - 'A'.toNat + 10)
  else none

/-- The number that a list of digits writes. -/
def value (ds : List Nat) : Nat :=
  ds.foldl (fun n d => 16 * n + d) 0

end Lockstep.Hex
