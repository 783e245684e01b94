namespace Lockstep

/-- Ranges of code points with both ends included, in increasing order. -/
structure CharRanges where
  ranges : List (Nat × Nat)

def CharRanges.covers (s : CharRanges) (c : Char) : Bool :=
  s.ranges.any fun r => r.1 ≤ c.toNat && c.toNat ≤ r.2

end Lockstep
