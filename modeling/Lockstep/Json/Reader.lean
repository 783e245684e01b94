import Lockstep.Json.Lexeme

/-!
Readers for JSON values of a known shape. They take the text from left to right, so of two faults in
it the first one is reported.

A record may be written as a list of its members in order. As an object its members may come in any
order and unknown ones are passed over; a member given twice is refused, and so is a missing one
unless it is optional. An alternative without content may be written as its name, and any
alternative as an object whose one member is named for it.
-/

namespace Lockstep.Json

variable (floats : FloatRule)

/-- Why the value at the front is refused where another kind of value belongs. A scalar is read to
its end first, and a fault in it counts. -/
def misplaced (cs : List Char) : ReadError :=
  let fault {α : Type} (r : Except ReadError α) : ReadError := match r with
    | .error e => e
    | .ok _ => .mismatched
  match cs with
  | 'n' :: rest => fault (literal ['u', 'l', 'l'] rest)
  | 't' :: rest => fault (literal ['r', 'u', 'e'] rest)
  | 'f' :: rest => fault (literal ['a', 'l', 's', 'e'] rest)
  | '"' :: rest => fault (textTail rest)
  | '-' :: rest => fault (numberWithFloat floats true rest)
  | '[' :: _ => .mismatched
  | '\x7b' :: _ => .mismatched
  | c :: _ => if c.isDigit then fault (numberWithFloat floats false cs) else .malformed
  | [] => .unfinished

/-- A number of any form. -/
def numeric : Reader (Number × Float) := fun cs =>
  match skipBlanks cs with
  | '-' :: rest => numberWithFloat floats true rest
  | c :: rest =>
    if c.isDigit then numberWithFloat floats false (c :: rest)
    else .error (misplaced floats (c :: rest))
  | [] => .error .unfinished

def readFloat : Reader Float := fun cs =>
  (numeric floats cs).map fun ((_, x), rest) => (x, rest)

/-- A whole number from 0 up to but not including `limit`, without a sign. -/
def readNat (limit : Nat) : Reader Nat := fun cs => do
  let ((n, _), rest) ← numeric floats cs
  if n.whole && !n.numeral.negative && n.numeral.digits < limit then
    .ok (n.numeral.digits, rest)
  else .error .mismatched

def readText : Reader String := fun cs =>
  match skipBlanks cs with
  | '"' :: rest => textTail rest
  | rest => .error (misplaced floats rest)

def readNull : Reader Unit := fun cs =>
  match skipBlanks cs with
  | 'n' :: rest => literal ['u', 'l', 'l'] rest
  | rest => .error (misplaced floats rest)

/-- A value or null. -/
def optional {α : Type} (read : Reader α) : Reader (Option α) := fun cs =>
  match skipBlanks cs with
  | 'n' :: rest => (literal ['u', 'l', 'l'] rest).map fun (_, rest) => (none, rest)
  | rest => (read rest).map fun (a, rest) => (some a, rest)

/-- What comes next in a list or object: its end, or another entry. -/
inductive Next where
  | finished (rest : List Char)
  | entry (rest : List Char)

/-- Moves to the next element of a list, past the comma that all but the first one need. -/
def nextElement (first : Bool) (cs : List Char) : Except ReadError Next :=
  match skipBlanks cs with
  | [] => .error .unfinished
  | ']' :: rest => .ok (.finished rest)
  | c :: rest =>
    if first then .ok (.entry (c :: rest))
    else if c = ',' then
      match skipBlanks rest with
      | [] => .error .unfinished
      | ']' :: _ => .error .malformed
      | rest => .ok (.entry rest)
    else .error .malformed

/-- The end of a list whose elements have all been read. -/
def closeList (cs : List Char) : Except ReadError (List Char) :=
  match skipBlanks cs with
  | [] => .error .unfinished
  | ']' :: rest => .ok rest
  | _ => .error .malformed

/-- The elements of a list from the given place on. Every step takes a character, so a list no shorter
than what is left bounds the steps. -/
def elements {α : Type} (read : Reader α) : List Char → Bool → Reader (List α)
  | [], _, _ => .error .unfinished
  | _ :: bound, first, cs => do
    match ← nextElement first cs with
    | .finished rest => .ok ([], rest)
    | .entry rest =>
      let (a, rest) ← read rest
      let (as, rest) ← elements read bound false rest
      .ok (a :: as, rest)

/-- A list of values. -/
def readList {α : Type} (read : Reader α) : Reader (List α) := fun cs =>
  match skipBlanks cs with
  | '[' :: rest => elements read rest true rest
  | rest => .error (misplaced floats rest)

/-- A list of exactly two values. A third one is read before it is refused. -/
def readPair {α : Type} (read : Reader α) : Reader (α × α) := fun cs => do
  match skipBlanks cs with
  | '[' :: rest =>
    match ← nextElement true rest with
    | .finished _ => .error .mismatched
    | .entry rest =>
      let (a, rest) ← read rest
      match ← nextElement false rest with
      | .finished _ => .error .mismatched
      | .entry rest =>
        let (b, rest) ← read rest
        match ← nextElement false rest with
        | .finished rest => .ok ((a, b), rest)
        | .entry rest =>
          let _ ← read rest
          .error .mismatched
  | rest => .error (misplaced floats rest)

/-- Moves to the next member of an object, past the comma that all but the first one need. An entry
begins behind the quote that opens the member's name. -/
def nextMember (first : Bool) (cs : List Char) : Except ReadError Next :=
  match skipBlanks cs with
  | [] => .error .unfinished
  | '\x7d' :: rest => .ok (.finished rest)
  | c :: rest =>
    if first then
      if c = '"' then .ok (.entry rest) else .error .malformed
    else if c = ',' then
      match skipBlanks rest with
      | [] => .error .unfinished
      | '"' :: rest => .ok (.entry rest)
      | _ => .error .malformed
    else .error .malformed

def colon (cs : List Char) : Except ReadError (List Char) :=
  match skipBlanks cs with
  | [] => .error .unfinished
  | ':' :: rest => .ok rest
  | _ => .error .malformed

mutual

/-- Passes over a value of any kind. Every step takes a character, so a list no shorter than what is
left bounds the steps. -/
def skipWithin : List Char → List Char → Except ReadError (List Char)
  | [], _ => .error .unfinished
  | _ :: bound, cs =>
    match skipBlanks cs with
    | [] => .error .unfinished
    | 'n' :: rest => (literal ['u', 'l', 'l'] rest).map (·.2)
    | 't' :: rest => (literal ['r', 'u', 'e'] rest).map (·.2)
    | 'f' :: rest => (literal ['a', 'l', 's', 'e'] rest).map (·.2)
    | '"' :: rest => skipText rest
    | '-' :: rest => skipNumber rest
    | '[' :: rest => do
      match ← nextElement true rest with
      | .finished rest => .ok rest
      | .entry rest => skipElements bound (← skipWithin bound rest)
    | '\x7b' :: rest => do
      match ← nextMember true rest with
      | .finished rest => .ok rest
      | .entry rest => skipMembers bound (← skipWithin bound (← colon (← skipText rest)))
    | c :: rest => if c.isDigit then skipNumber (c :: rest) else .error .malformed

/-- Passes over the rest of a list, from behind an element. -/
def skipElements : List Char → List Char → Except ReadError (List Char)
  | [], _ => .error .unfinished
  | _ :: bound, cs => do
    match ← nextElement false cs with
    | .finished rest => .ok rest
    | .entry rest => skipElements bound (← skipWithin bound rest)

/-- Passes over the rest of an object, from behind a member. -/
def skipMembers : List Char → List Char → Except ReadError (List Char)
  | [], _ => .error .unfinished
  | _ :: bound, cs => do
    match ← nextMember false cs with
    | .finished rest => .ok rest
    | .entry rest => skipMembers bound (← skipWithin bound (← colon (← skipText rest)))

end

/-- Passes over a value. -/
def skipValue (cs : List Char) : Except ReadError (List Char) :=
  skipWithin cs cs

/-- The members of a record in order: their names, their readers, and what stands for a member that
is missing. -/
inductive Members : List Type → Type 1 where
  | nil : Members []
  | cons {α : Type} {ts : List Type} (name : String) (absent : Option α) (read : Reader α)
      (rest : Members ts) : Members (α :: ts)

/-- The values of all members. -/
def Row : List Type → Type
  | [] => Unit
  | α :: ts => α × Row ts

/-- The values of the members read so far. -/
def Draft : List Type → Type
  | [] => Unit
  | α :: ts => Option α × Draft ts

namespace Members

def required {α : Type} {ts : List Type} (name : String) (read : Reader α) (rest : Members ts) :
    Members (α :: ts) :=
  cons name none read rest

def maybe {α : Type} {ts : List Type} (name : String) (read : Reader α) (rest : Members ts) :
    Members (Option α :: ts) :=
  cons name (some none) (optional read) rest

def blank {ts : List Type} : Members ts → Draft ts
  | nil => ()
  | cons _ _ _ rest => (none, rest.blank)

/-- The reader that puts the named member into a draft, `none` for an unknown name. A member that is
already there is refused before its value is looked at. -/
def fill? {ts : List Type} : Members ts → String → Draft ts → Option (Reader (Draft ts))
  | nil, _, _ => none
  | cons name _ read rest, key, (value, others) =>
    if key = name then
      match value with
      | some _ => some fun _ => .error .mismatched
      | none => some fun cs => do
        let (a, cs) ← read (← colon cs)
        .ok ((some a, others), cs)
    else
      (rest.fill? key others).map fun fill cs => do
        let (others, cs) ← fill cs
        .ok ((value, others), cs)

/-- The row of a draft with every missing member replaced, unless one is required. -/
def complete {ts : List Type} : Members ts → Draft ts → Except ReadError (Row ts)
  | nil, _ => .ok ()
  | cons _ absent _ rest, (value, others) =>
    match value.orElse fun _ => absent with
    | none => .error .mismatched
    | some a => (rest.complete others).map fun row => (a, row)

/-- The members as the elements of a list, of which none may be missing. -/
def inOrder {ts : List Type} : Members ts → Bool → Reader (Row ts)
  | nil, _, cs => .ok ((), cs)
  | cons _ _ read rest, first, cs => do
    match ← nextElement first cs with
    | .finished _ => .error .mismatched
    | .entry cs =>
      let (a, cs) ← read cs
      let (row, cs) ← rest.inOrder false cs
      .ok ((a, row), cs)

/-- The members of an object in any order, from the given place on. Every step takes a character, so a
list no shorter than what is left bounds the steps. -/
def byName {ts : List Type} (m : Members ts) : List Char → Bool → Draft ts → Reader (Draft ts)
  | [], _, _, _ => .error .unfinished
  | _ :: bound, first, draft, cs => do
    match ← nextMember first cs with
    | .finished rest => .ok (draft, rest)
    | .entry rest =>
      let (key, rest) ← textTail rest
      match m.fill? key draft with
      | some fill =>
        let (draft, rest) ← fill rest
        m.byName bound false draft rest
      | none => m.byName bound false draft (← skipValue (← colon rest))

/-- A record, as an object or as a list. -/
def read {ts : List Type} (m : Members ts) : Reader (Row ts) := fun cs => do
  match skipBlanks cs with
  | '[' :: rest =>
    let (row, rest) ← m.inOrder true rest
    .ok (row, ← closeList rest)
  | '\x7b' :: rest =>
    let (draft, rest) ← m.byName rest true m.blank rest
    .ok (← m.complete draft, rest)
  | rest => .error (misplaced floats rest)

end Members

/-- The end of an object that named one alternative. -/
def closeAlternative (cs : List Char) : Except ReadError (List Char) :=
  match skipBlanks cs with
  | [] => .error .unfinished
  | '\x7d' :: rest => .ok rest
  | _ => .error .malformed

/-- The name of an alternative, whose opening quote has been taken, and what belongs to it. -/
def alternative {α : Type} (table : List (String × α)) : Reader α := fun cs => do
  let (name, rest) ← textTail cs
  match table.lookup name with
  | some a => .ok (a, rest)
  | none => .error .mismatched

/-- The name of the one member of an object that holds an alternative, and what belongs to it. -/
def memberAlternative {α : Type} (table : List (String × α)) : Reader α := fun cs =>
  match skipBlanks cs with
  | [] => .error .unfinished
  | '"' :: rest => alternative table rest
  | _ => .error .malformed

/-- One of several values without content. -/
def oneOf {α : Type} (table : List (String × α)) : Reader α := fun cs => do
  match skipBlanks cs with
  | [] => .error .unfinished
  | '"' :: rest => alternative table rest
  | '\x7b' :: rest =>
    let (a, rest) ← memberAlternative table rest
    let (_, rest) ← readNull floats (← colon rest)
    .ok (a, ← closeAlternative rest)
  | _ => .error .malformed

/-- One of several alternatives that each have content. -/
def tagged {α : Type} (table : List (String × Reader α)) : Reader α := fun cs => do
  match skipBlanks cs with
  | [] => .error .unfinished
  | '"' :: rest =>
    let _ ← alternative table rest
    .error .mismatched
  | '\x7b' :: rest =>
    let (content, rest) ← memberAlternative table rest
    let (a, rest) ← content (← colon rest)
    .ok (a, ← closeAlternative rest)
  | _ => .error .malformed

/-- Reads a text that holds one value and nothing but blanks around it. -/
def decode {α : Type} (read : Reader α) (s : String) : Except ReadError α := do
  let (a, rest) ← read s.toList
  if (skipBlanks rest).isEmpty then .ok a else .error .malformed

end Lockstep.Json
