import Lockstep.Number.Hex

namespace Lockstep

/-- The identifier of a recorded run. -/
structure RunId where
  bits : BitVec 128
deriving DecidableEq

namespace RunId

/-- An identifier of the random kind: all bits are random but the ones that say so. -/
def ofRandom (high low : UInt64) : RunId :=
  let high := (high &&& 0xffffffffffff0fff) ||| 0x4000
  let low := (low &&& 0x3fffffffffffffff) ||| 0x8000000000000000
  ⟨high.toBitVec ++ low.toBitVec⟩

/-- The digits from the highest to the lowest. -/
def digits (id : RunId) : List Char :=
  (List.range 32).map fun i => Nat.digitChar (id.bits.toNat >>> (4 * (31 - i)) % 16)

/-- 32 lower case digits in groups of 8, 4, 4, 4 and 12. -/
def text (id : RunId) : String :=
  let ds := id.digits
  let group (start size : Nat) := (ds.drop start).take size
  String.ofList <| group 0 8 ++ '-' :: group 8 4 ++ '-' :: group 12 4 ++ '-' :: group 16 4 ++
    '-' :: group 20 12

/-- The identifier of exactly 32 digits. -/
def ofDigits? (cs : List Char) : Option RunId :=
  if cs.length = 32 then
    (cs.mapM Hex.digit?).map fun ds => ⟨BitVec.ofNat 128 (Hex.value ds)⟩
  else none

/-- The identifier of 32 digits in five groups. -/
def ofGroups? (cs : List Char) : Option RunId :=
  let group (start size : Nat) := (cs.drop start).take size
  let hyphens := [8, 13, 18, 23].all fun i => cs[i]? == some '-'
  if cs.length = 36 && hyphens then
    ofDigits? (group 0 8 ++ group 9 4 ++ group 14 4 ++ group 19 4 ++ group 24 12)
  else none

/-- An identifier in either case, with or without hyphens, and with hyphens also in braces or as a URN. -/
def ofText? (s : String) : Option RunId :=
  let cs := s.toList
  if cs.length = 32 then ofDigits? cs
  else if cs.length = 36 then ofGroups? cs
  else if cs.length = 38 && cs.head? == some '\x7b' && cs.getLast? == some '\x7d' then
    ofGroups? (cs.tail.dropLast)
  else if cs.length = 45 && (cs.take 9).map Char.toLower == "urn:uuid:".toList then
    ofGroups? (cs.drop 9)
  else none

end RunId

end Lockstep
