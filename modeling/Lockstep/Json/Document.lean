import Lockstep.Json.Reader
import Lockstep.Json.Value

namespace Lockstep

namespace Json

/-- A number as a value. A whole number without a sign keeps all its digits. -/
def Number.json (n : Number) (x : Float) : Json :=
  if n.whole && !n.numeral.negative then .nat n.numeral.digits else .float x

/-- The members of an object with their names, from the given place on. The steps are bounded as in
`elements`. -/
def entries {α : Type} (read : Reader α) : List Char → Bool → Reader (List (String × α))
  | [], _, _ => .error .unfinished
  | _ :: bound, first, cs => do
    match ← nextMember first cs with
    | .finished rest => .ok ([], rest)
    | .entry rest =>
      let (name, rest) ← textTail rest
      let (a, rest) ← read (← colon rest)
      let (others, rest) ← entries read bound false rest
      .ok ((name, a) :: others, rest)

/-- The most levels of lists and objects within each other. -/
def maxLevels : Nat := 127

/-- A value of any kind, nested no deeper than the given number of levels. -/
def readNested (floats : FloatRule) (levels : Nat) : Reader Json := fun cs =>
  match skipBlanks cs, levels with
  | [], _ => .error .unfinished
  | 'n' :: rest, _ => (literal ['u', 'l', 'l'] rest).map fun (_, rest) => (.null, rest)
  | 't' :: rest, _ => (literal ['r', 'u', 'e'] rest).map fun (_, rest) => (.bool true, rest)
  | 'f' :: rest, _ => (literal ['a', 'l', 's', 'e'] rest).map fun (_, rest) => (.bool false, rest)
  | '"' :: rest, _ => (textTail rest).map fun (s, rest) => (.text s, rest)
  | '[' :: rest, levels + 1 =>
    (elements (readNested floats levels) rest true rest).map fun (items, rest) => (.list items, rest)
  | '\x7b' :: rest, levels + 1 =>
    (entries (readNested floats levels) rest true rest).map fun (members, rest) => (.record members, rest)
  | '[' :: _, 0 => .error .malformed
  | '\x7b' :: _, 0 => .error .malformed
  | rest, _ => (numeric floats rest).map fun ((n, x), rest) => (n.json x, rest)

/-- Reads a value of any kind. -/
def read (floats : FloatRule) : Reader Json := readNested floats maxLevels

def isNull : Json → Bool
  | null => true
  | _ => false

/-- The member of a record with the given name. -/
def member? (j : Json) (name : String) : Option Json :=
  match j with
  | record members => members.lookup name
  | _ => none

end Json

end Lockstep
