import Lockstep.Number.Hex
import Lockstep.Text.Alphanumeric
import Lockstep.Text.Blank

/-!
Regular expressions that a filter may demand of the value of a field. No line of the journal has a
field with such a value, so all that is asked of an expression is whether it is one: `isValid` reads
it from left to right and does not build it.

An expression matches code points unless the flag `u` is taken away. Then its sets are sets of ASCII,
and none is a complement, which would reach beyond it. Letter cases, classes and word ends are known
for ASCII only, so an expression on code points that needs them is refused. So is one that is nested
too deeply.
-/

namespace Lockstep.Journal.Pattern

/-- The most levels of nesting. -/
def maxDepth : Nat := 250

/-- The levels of nesting of parts side by side, given those of each. Two parts or more make a level of
their own. -/
def depthOf : List Nat → Nat
  | [] => 0
  | [d] => d
  | ds => ds.foldl max 0 + 1

/-- The flags that decide what may be written: `i`, `u` and `x`. -/
structure Mode where
  foldsCase : Bool := false
  unicode : Bool := true
  spaced : Bool := false

namespace Mode

/-- The flags that are known, and the sign that takes away those behind it. -/
def signs : List Char := ['i', 'm', 's', 'U', 'u', 'R', 'x', '-']

/-- Every sign is known and given once, and the last one is a flag. -/
def areSigns (cs : List Char) : Bool :=
  cs.all signs.contains && decide cs.Nodup && cs.getLast? != some '-'

/-- The mode to which the given signs change a mode. -/
def after (m : Mode) (cs : List Char) : Mode :=
  let granted := cs.takeWhile (· != '-')
  let flag (c : Char) (old : Bool) : Bool := granted.contains c || (old && !cs.contains c)
  ⟨flag 'i' m.foldsCase, flag 'u' m.unicode, flag 'x' m.spaced⟩

/-- Whether the letter cases that the mode asks for are known. -/
def knowsCases (m : Mode) : Bool := !(m.foldsCase && m.unicode)

/-- Whether a set, or the complement of one, keeps to what the mode matches in sets. -/
def keeps (m : Mode) (complement : Bool) : Bool := m.unicode || !complement

end Mode

/-- Passes over blanks, and over remarks from a number sign to the end of the line. -/
def skipRemarks (inRemark : Bool) : List Char → List Char
  | [] => []
  | c :: rest =>
    if inRemark then skipRemarks (c != '\n') rest
    else if Blank.isBlank c then skipRemarks false rest
    else if c = '#' then skipRemarks true rest
    else c :: rest

/-- Passes over what the mode does not count. -/
def skip (m : Mode) (cs : List Char) : List Char :=
  if m.spaced then skipRemarks false cs else cs

/-- What an expression or a set is made of. -/
inductive Element where
  /-- One character. A byte is one that is given by two hexadecimal digits. -/
  | literal (c : Char) (isByte : Bool)
  /-- The digits, blanks or word characters, or everything else. -/
  | family (complement : Bool)
  /-- An end of the text. -/
  | textEnd
  /-- An end of a word, or any other place. -/
  | wordEnd

/-- Hexadecimal digits, as many as asked for. -/
def hexDigits (m : Mode) : Nat → List Char → Option (List Nat × List Char)
  | 0, cs => some ([], cs)
  | n + 1, cs =>
    match skip m cs with
    | [] => none
    | c :: rest => do
      let d ← Hex.digit? c
      let (ds, rest) ← hexDigits m n rest
      return (d :: ds, rest)

/-- A code point in a given number of digits. -/
def codePoint (m : Mode) (size : Nat) (cs : List Char) : Option (Element × List Char) := do
  let (ds, rest) ← hexDigits m size cs
  if (Hex.value ds).isValidChar then
    return (.literal (Char.ofNat (Hex.value ds)) (size == 2), rest)
  else none

/-- The element that a backslash and the text behind it make. Of the signs of ASCII all but the two
that stand for the ends of a word stand for themselves. -/
def escape (m : Mode) : List Char → Option (Element × List Char)
  | [] => none
  | c :: rest =>
    match c with
    | 'x' => codePoint m 2 rest
    | 'u' => codePoint m 4 rest
    | 'U' => codePoint m 8 rest
    | 'd' | 's' | 'w' => some (.family false, rest)
    | 'D' | 'S' | 'W' => some (.family true, rest)
    | 'A' | 'z' => some (.textEnd, rest)
    | 'b' | 'B' | '<' | '>' => some (.wordEnd, rest)
    | 'a' => some (.literal '\x07' false, rest)
    | 't' => some (.literal '\t' false, rest)
    | 'n' => some (.literal '\n' false, rest)
    | 'v' => some (.literal '\x0b' false, rest)
    | 'f' => some (.literal '\x0c' false, rest)
    | 'r' => some (.literal '\r' false, rest)
    | _ => if c.toNat < 0x80 && !c.isAlphanum then some (.literal c false, rest) else none

/-- Whether an element may stand on its own. A byte beyond ASCII may not: it is no character. -/
def Element.standsAlone (m : Mode) : Element → Bool
  | literal c isByte => m.knowsCases && (m.unicode || !isByte || c.toNat < 0x80)
  | family complement => !m.unicode && !complement
  | textEnd => true
  | wordEnd => !m.unicode

/-- Whether an element may stand in a set. -/
def Element.standsInSet (m : Mode) : Element → Bool
  | literal c _ => m.knowsCases && (m.unicode || c.toNat < 0x80)
  | family complement => !m.unicode && !complement
  | textEnd => false
  | wordEnd => false

/-- A set whose end has not been reached: how deep what stands before the last operator is nested, if
there is an operator, and each item behind it. -/
structure OpenSet where
  before : Option Nat := none
  items : List Nat := []

namespace OpenSet

/-- How deep the inside of the set is nested. -/
def depth (s : OpenSet) : Nat :=
  match s.before with
  | none => depthOf s.items
  | some depth => depthOf [depth, depthOf s.items]

/-- The set with another item. -/
def item (s : OpenSet) (depth : Nat) : OpenSet := { s with items := depth :: s.items }

/-- The set with an operator behind all that is written. -/
def operate (s : OpenSet) : OpenSet := { before := some s.depth }

/-- Adds the hyphens at the beginning of a set. Every step takes a character, so a list no shorter than
the text bounds the steps. -/
def hyphens (m : Mode) : List Char → OpenSet → List Char → OpenSet × List Char
  | _ :: bound, s, '-' :: rest => hyphens m bound (s.item 0) (skip m rest)
  | _, s, cs => (s, cs)

/-- The beginning of a set, from behind its bracket: a possible sign for the complement, and hyphens
or else one closing bracket that stand for themselves. -/
def begin? (m : Mode) (cs : List Char) : Option (OpenSet × List Char) :=
  let cs := skip m cs
  let (complement, cs) := match cs with
    | '^' :: rest => (true, skip m rest)
    | _ => (false, cs)
  if !m.keeps complement then none
  else match cs with
    | '-' :: _ => if m.knowsCases then some (hyphens m cs {} cs) else none
    | ']' :: rest => if m.knowsCases then some ({ items := [0] }, rest) else none
    | _ => some ({}, cs)

end OpenSet

/-- The sets of ASCII that have a name. -/
def setNames : List String :=
  ["alnum", "alpha", "ascii", "blank", "cntrl", "digit", "graph", "lower", "print", "punct",
    "space", "upper", "word", "xdigit"]

/-- A set by name, from behind its bracket: whether its complement is meant. -/
def named? (cs : List Char) : Option (Bool × List Char) :=
  match cs with
  | ':' :: cs =>
    let (complement, cs) := match cs with
      | '^' :: rest => (true, rest)
      | _ => (false, cs)
    let name := cs.takeWhile (· != ':')
    match cs.drop name.length with
    | ':' :: ']' :: rest =>
      if setNames.contains (String.ofList name) then some (complement, rest) else none
    | _ => none
  | _ => none

/-- One element of a set as it is written. -/
def setElement (m : Mode) : List Char → Option (Element × List Char)
  | [] => none
  | '\\' :: rest => escape m rest
  | c :: rest => some (.literal c false, rest)

/-- The character that follows a hyphen. Among blanks the sign of a remark is passed over, but not the
remark. -/
def behindHyphen (m : Mode) (cs : List Char) : Option Char :=
  if !m.spaced then cs.head?
  else match cs.dropWhile Blank.isBlank with
    | '#' :: rest => (rest.dropWhile Blank.isBlank).head?
    | cs => cs.head?

/-- An element of a set, or all characters from one literal to another that is not before it. A hyphen
before a bracket or another hyphen makes no range. -/
def setItem (m : Mode) (cs : List Char) : Option (List Char) := do
  let (first, rest) ← setElement m cs
  let alone := if first.standsInSet m then some (skip m rest) else none
  match skip m rest with
  | '-' :: tail =>
    match behindHyphen m tail with
    | some ']' => alone
    | some '-' => alone
    | _ =>
      let (last, rest) ← setElement m (skip m tail)
      match first, last with
      | .literal a _, .literal b _ =>
        if a ≤ b && first.standsInSet m && last.standsInSet m then some rest else none
      | _, _ => none
  | _ => alone

/-- The rest of a set and of the sets around it, to the end of the outermost one, and how deep that is
nested. The steps are bounded as in `OpenSet.hyphens`. -/
def setRest (m : Mode) :
    List Char → List OpenSet → OpenSet → List Char → Option (Nat × List Char)
  | [], _, _, _ => none
  | _ :: bound, around, s, cs =>
    match skip m cs with
    | [] => none
    | ']' :: rest =>
      match around with
      | [] => some (s.depth + 1, rest)
      | outer :: around => setRest m bound around (outer.item (s.depth + 1)) rest
    | '[' :: rest =>
      match named? rest with
      | some (complement, rest) =>
        if m.knowsCases && m.keeps complement then setRest m bound around (s.item 0) rest else none
      | none => do
        let (inner, rest) ← OpenSet.begin? m rest
        setRest m bound (s :: around) inner rest
    | '&' :: '&' :: rest | '-' :: '-' :: rest | '~' :: '~' :: rest =>
      setRest m bound around s.operate rest
    | cs => do setRest m bound around (s.item 0) (← setItem m cs)

/-- A whole set, from behind its bracket, and how deep it is nested. -/
def wholeSet (m : Mode) (cs : List Char) : Option (Nat × List Char) := do
  let (s, rest) ← OpenSet.begin? m cs
  setRest m cs [] s rest

/-- The alternatives of a group, or of the whole expression, whose end has not been reached: the mode,
and how deep the finished alternatives and the pieces of the last one are nested, the last piece
first. -/
structure Alternatives where
  mode : Mode := {}
  finished : List Nat := []
  pieces : List Nat := []

/-- How deep the alternatives are nested. -/
def Alternatives.depth (a : Alternatives) : Nat :=
  depthOf (depthOf a.pieces :: a.finished)

/-- An expression whose end has not been reached. -/
structure Progress where
  inside : Alternatives := {}
  /-- What stands around the open groups, the innermost first. -/
  around : List Alternatives := []
  /-- The names of groups. -/
  names : List (List Char) := []
  /-- Whether the last piece can be repeated. -/
  repeatable : Bool := false

namespace Progress

def mode (p : Progress) : Mode := p.inside.mode

/-- The expression with another piece. -/
def piece (p : Progress) (depth : Nat) : Progress :=
  { p with inside := { p.inside with pieces := depth :: p.inside.pieces }, repeatable := true }

/-- The expression with an element as another piece. -/
def element (p : Progress) (e : Element) : Option Progress :=
  if e.standsAlone p.mode then some (p.piece 0) else none

/-- The expression with its last piece repeated. -/
def repeated (p : Progress) : Option Progress :=
  match p.repeatable, p.inside.pieces with
  | true, depth :: pieces =>
    some { p with inside := { p.inside with pieces := (depth + 1) :: pieces } }
  | _, _ => none

/-- The expression at the beginning of another alternative. -/
def alternative (p : Progress) : Progress :=
  let finished := depthOf p.inside.pieces :: p.inside.finished
  { p with inside := { mode := p.mode, finished }, repeatable := false }

/-- The expression inside a new group. -/
def within (p : Progress) (mode : Mode) : Progress :=
  { p with inside := { mode }, around := p.inside :: p.around, repeatable := false }

/-- The expression behind the innermost group. -/
def closeGroup (p : Progress) : Option Progress :=
  match p.around with
  | [] => none
  | outer :: around => some ({ p with inside := outer, around }.piece (p.inside.depth + 1))

/-- The expression behind a change of flags, which cannot be repeated. -/
def change (p : Progress) (mode : Mode) : Progress :=
  let pieces := 0 :: p.inside.pieces
  { p with inside := { p.inside with mode, pieces }, repeatable := false }

/-- The name of a group up to the sign that ends it. No two groups have the same name. -/
def groupName (p : Progress) (cs : List Char) : Option (Progress × List Char) :=
  let name := cs.takeWhile (· != '>')
  let inName (c : Char) : Bool := ['_', '.', '[', ']'].contains c || Alphanumeric.isAlphanumeric c
  match name, cs.drop name.length with
  | c :: more, '>' :: rest =>
    if (c == '_' || Alphanumeric.isAlphabetic c) && more.all inName && !p.names.contains name then
      some ({ p.within p.mode with names := name :: p.names }, rest)
    else none
  | _, _ => none

/-- The beginning of a group, from behind its parenthesis, or a change of flags in parentheses. -/
def openGroup (p : Progress) (cs : List Char) : Option (Progress × List Char) :=
  match skip p.mode cs with
  | '?' :: 'P' :: '<' :: rest => p.groupName rest
  | '?' :: '<' :: rest => p.groupName rest
  | '?' :: rest =>
    let signs := rest.takeWhile fun c => c != ':' && c != ')'
    if !Mode.areSigns signs then none
    else match rest.drop signs.length with
      | ':' :: rest => some (p.within (p.mode.after signs), rest)
      | ')' :: rest => if signs.isEmpty then none else some (p.change (p.mode.after signs), rest)
      | _ => none
  | rest => some (p.within p.mode, rest)

/-- Reads on. A field of a filter ends at the first closing brace, and so a count of repetitions in
braces has no end. -/
def step (p : Progress) (c : Char) (rest : List Char) : Option (Progress × List Char) :=
  match c with
  | '(' => p.openGroup rest
  | ')' => p.closeGroup.map (·, rest)
  | '|' => some (p.alternative, rest)
  | '[' => (wholeSet p.mode rest).map fun (depth, rest) => (p.piece depth, rest)
  | '*' | '+' | '?' =>
    let rest := match rest with
      | '?' :: rest => rest
      | _ => rest
    p.repeated.map (·, rest)
  | '\x7b' => none
  | '\\' => do
    let (e, rest) ← escape p.mode rest
    return (← p.element e, rest)
  | '.' => if p.mode.unicode then some (p.piece 0, rest) else none
  | '^' | '$' => (p.element .textEnd).map (·, rest)
  | _ => (p.element (.literal c false)).map (·, rest)

/-- Whether the rest of an expression can be read. The steps are bounded as in `OpenSet.hyphens`. -/
def isReadable : List Char → Progress → List Char → Bool
  | bound, p, cs =>
    match bound, skip p.mode cs with
    | _, [] => p.around.isEmpty && p.inside.depth ≤ maxDepth
    | [], _ => false
    | _ :: bound, c :: rest =>
      match p.step c rest with
      | some (p, rest) => isReadable bound p rest
      | none => false

end Progress

/-- Whether a text is a regular expression. -/
def isValid (s : String) : Bool :=
  Progress.isReadable s.toList {} s.toList

end Lockstep.Journal.Pattern
