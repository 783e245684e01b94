import Lockstep.Journal.Pattern
import Lockstep.Number.Numeral

/-!
Directives of a journal filter. A directive is a level, a target with or without a level, or either
with a span and a field in brackets. Lines of the journal belong to no span, and their one field has
no value that could be tested, so a directive that asks for either concerns no line.

A directive is looked at without the blanks around it, but its parts are cut out of the text with
them, at the places in bytes that they have without.
-/

namespace Lockstep.Journal

/-- The least important level that a directive lets through, as a rank; `0` lets nothing through. -/
abbrev Threshold := Nat

/-- A directive that asks for no span and for no values of fields. -/
structure Directive where
  target : Option String
  fields : List String
  threshold : Threshold
deriving DecidableEq

namespace Directive

/-- The bytes that characters take. -/
def byteSize : List Char → Nat
  | [] => 0
  | c :: cs => c.utf8Size + byteSize cs

/-- Splits characters behind a number of bytes, if that is not inside a character. -/
def splitBytes? : Nat → List Char → Option (List Char × List Char)
  | 0, cs => some ([], cs)
  | _ + 1, [] => none
  | size + 1, c :: cs =>
    if c.utf8Size ≤ size + 1 then
      (splitBytes? (size + 1 - c.utf8Size) cs).map fun (front, back) => (c :: front, back)
    else none

/-- The text from a place on. -/
def cutFrom? (cs : List Char) (start : Nat) : Option String :=
  (splitBytes? start cs).map fun (_, back) => String.ofList back

/-- The text of some size from a place on. -/
def cut? (cs : List Char) (start size : Nat) : Option String := do
  let (_, back) ← splitBytes? start cs
  let (front, _) ← splitBytes? size back
  return String.ofList front

/-- A threshold by name in any case, or by its rank. -/
def threshold? (text : String) : Option Threshold :=
  match nat? UInt64.size text with
  | some n => if n ≤ 5 then some n else none
  | none =>
    match String.ofList (text.toList.map Char.toLower) with
    | "off" => some 0
    | "" => some 1
    | "error" => some 1
    | "warn" => some 2
    | "info" => some 3
    | "debug" => some 4
    | "trace" => some 5
    | _ => none

/-- What stands after the equals sign of a directive: a threshold, everything if it is empty. -/
def thresholdOrAll? (text : String) : Option Threshold :=
  if text.isEmpty then some 5 else threshold? text

/-- A field by its name, and whether a value is asked of it. The value is a number or an expression, and
ends at another equals sign. -/
def field? (text : String) : Option (String × Bool) :=
  match text.splitOn "=" with
  | [] => none
  | [name] => some (name, false)
  | name :: value :: _ =>
    if (float? value).isSome || Pattern.isValid value then some (name, true) else none

/-- What a directive turned out to be. -/
inductive Parsed where
  | concerning (d : Directive)
  | concernsNone

/-- A directive that asks for a value or a span, or for neither. -/
def Parsed.of (asks : Bool) (d : Directive) : Parsed :=
  if asks then .concernsNone else .concerning d

/-- What stands in brackets: the fields, whether a span or a value is asked for, and what follows. -/
structure Brackets where
  fields : List String
  asks : Bool
  rest : List Char

/-- Reads brackets, from behind the opening one at the given place. -/
def brackets? (whole : List Char) (place : Nat) (cs : List Char) : Option Brackets :=
  let span := cs.takeWhile fun c => c != ']' && c != '\x7b'
  match cs.drop span.length with
  | ']' :: rest => some ⟨[], true, rest⟩
  | '\x7b' :: rest =>
    let field := rest.takeWhile (· != '\x7d')
    match rest.drop field.length with
    | '\x7d' :: ']' :: rest => do
      if field.isEmpty then none
      let (name, asksValue) ← field? (← cut? whole (place + byteSize span + 1) (byteSize field))
      return ⟨[name], !span.isEmpty || asksValue, rest⟩
    | _ => none
  | _ => none

/-- Reads a directive from its brackets on. -/
def fromBrackets? (whole shown : List Char) (target : Option String) (place : Nat) (cs : List Char) :
    Option Parsed := do
  let b ← brackets? whole place cs
  match b.rest with
  | [] => return .of b.asks ⟨target, b.fields, 5⟩
  | '=' :: level =>
    let level ← cutFrom? whole (byteSize shown - byteSize level)
    return .of b.asks ⟨target, b.fields, ← thresholdOrAll? level⟩
  | _ => none

/-- Reads a directive. -/
def ofText? (text : String) : Option Parsed :=
  let whole := text.toList
  let shown := Blank.trim whole
  match shown with
  | [] => none
  | '[' :: cs => fromBrackets? whole shown none 1 cs
  | c :: _ =>
    if !(Alphanumeric.isAlphanumeric c || c == '-' || c == ':' || c == '_') then none
    else
      let name := shown.takeWhile fun c => c != '=' && c != '['
      match shown.drop name.length with
      | [] =>
        match threshold? text with
        | some threshold => some (.concerning ⟨none, [], threshold⟩)
        | none => some (.concerning ⟨some text, [], 5⟩)
      | '=' :: _ => do
        let target ← cut? whole 0 (byteSize name)
        let level ← cutFrom? whole (byteSize name + 1)
        return .concerning ⟨some target, [], ← thresholdOrAll? level⟩
      | _ :: cs => do
        let target ← cut? whole 0 (byteSize name)
        fromBrackets? whole shown (some target) (byteSize name + 1) cs

end Directive

end Lockstep.Journal
