import Lockstep.Number.Shortest

namespace Lockstep

/-- JSON values. The members of a record keep the order in which they are given. -/
inductive Json where
  | null
  | bool (b : Bool)
  | nat (n : Nat)
  | float (x : Float)
  | text (s : String)
  | list (items : List Json)
  | record (members : List (String × Json))

namespace Json

/-- The written form of a character inside a text. -/
def escape (c : Char) : List Char :=
  match c with
  | '"' => ['\\', '"']
  | '\\' => ['\\', '\\']
  | '\x08' => ['\\', 'b']
  | '\x0c' => ['\\', 'f']
  | '\n' => ['\\', 'n']
  | '\r' => ['\\', 'r']
  | '\t' => ['\\', 't']
  | c =>
    if c.toNat < 0x20 then
      ['\\', 'u', '0', '0', Nat.digitChar (c.toNat / 16), Nat.digitChar (c.toNat % 16)]
    else [c]

def quoted (s : String) : List Char :=
  '"' :: s.toList.flatMap escape ++ ['"']

def ofBool (b : Bool) : List Char :=
  if b then ['t', 'r', 'u', 'e'] else ['f', 'a', 'l', 's', 'e']

mutual

def compactChars : Json → List Char
  | null => ['n', 'u', 'l', 'l']
  | bool b => ofBool b
  | nat n => Decimal.digits n
  | float x => Shortest.json x
  | text s => quoted s
  | list items => '[' :: compactItems true items
  | record members => '\x7b' :: compactMembers true members

/-- The elements after the opening bracket, with a comma before all but the first. -/
def compactItems (first : Bool) : List Json → List Char
  | [] => [']']
  | item :: rest =>
    (if first then [] else [',']) ++ (compactChars item ++ compactItems false rest)

def compactMembers (first : Bool) : List (String × Json) → List Char
  | [] => ['\x7d']
  | (name, value) :: rest =>
    (if first then [] else [',']) ++
      (quoted name ++ ':' :: (compactChars value ++ compactMembers false rest))

end

/-- A line end and the blanks before the next line's text. -/
def lineStart (depth : Nat) : List Char :=
  '\n' :: List.replicate (2 * depth) ' '

mutual

def prettyChars (depth : Nat) : Json → List Char
  | list [] => ['[', ']']
  | list (item :: rest) =>
    '[' :: lineStart (depth + 1) ++ prettyChars (depth + 1) item ++ prettyItems depth rest
  | record [] => ['\x7b', '\x7d']
  | record ((name, value) :: rest) =>
    '\x7b' :: lineStart (depth + 1) ++ quoted name ++ ':' :: ' ' ::
      (prettyChars (depth + 1) value ++ prettyMembers depth rest)
  | null => ['n', 'u', 'l', 'l']
  | bool b => ofBool b
  | nat n => Decimal.digits n
  | float x => Shortest.json x
  | text s => quoted s

/-- The elements after the first one, and the closing bracket. -/
def prettyItems (depth : Nat) : List Json → List Char
  | [] => lineStart depth ++ [']']
  | item :: rest =>
    ',' :: lineStart (depth + 1) ++ prettyChars (depth + 1) item ++ prettyItems depth rest

def prettyMembers (depth : Nat) : List (String × Json) → List Char
  | [] => lineStart depth ++ ['\x7d']
  | (name, value) :: rest =>
    ',' :: lineStart (depth + 1) ++ quoted name ++ ':' :: ' ' ::
      (prettyChars (depth + 1) value ++ prettyMembers depth rest)

end

/-- The text without blanks. -/
def compact (j : Json) : String :=
  String.ofList j.compactChars

/-- The text with each element and member on a line of its own, two spaces deeper than its surroundings. Empty
lists and records stay on one line. -/
def pretty (j : Json) : String :=
  String.ofList (prettyChars 0 j)

end Json

end Lockstep
