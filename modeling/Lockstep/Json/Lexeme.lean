import Lockstep.Number.Hex
import Lockstep.Number.Numeral

namespace Lockstep.Json

/-- Why a text is not the JSON of a value: it breaks the grammar, it is the JSON of something else,
or it ends too early. -/
inductive ReadError where
  | malformed
  | mismatched
  | unfinished
deriving DecidableEq, Repr

/-- A reader takes a value off the front of a text and gives back the rest, or says why it cannot. -/
abbrev Reader (α : Type) := List Char → Except ReadError (α × List Char)

def isBlank (c : Char) : Bool :=
  c == ' ' || c == '\n' || c == '\t' || c == '\r'

def skipBlanks (cs : List Char) : List Char :=
  cs.dropWhile isBlank

/-- Takes exactly the given characters. -/
def literal : List Char → Reader Unit
  | [], cs => .ok ((), cs)
  | _ :: _, [] => .error .unfinished
  | e :: es, c :: cs => if c = e then literal es cs else .error .malformed

/-- Four hexadecimal digits. A text that has less than four bytes left has ended too early. -/
def codeUnit (cs : List Char) : Except ReadError (Nat × List Char) :=
  match cs with
  | a :: b :: c :: d :: rest =>
    match [a, b, c, d].mapM Hex.digit? with
    | some ds => .ok (Hex.value ds, rest)
    | none => .error .malformed
  | _ => .error (if (String.ofList cs).utf8ByteSize < 4 then .unfinished else .malformed)

def isTrailing (unit : Nat) : Bool := 0xDC00 ≤ unit && unit ≤ 0xDFFF

def isLeading (unit : Nat) : Bool := 0xD800 ≤ unit && unit ≤ 0xDBFF

/-- The character behind `\u`: one code unit, or a leading one and the trailing one escaped right
after it. -/
def unicodeEscape (cs : List Char) : Except ReadError (Char × List Char) :=
  match codeUnit cs with
  | .error e => .error e
  | .ok (unit, rest) =>
    if isTrailing unit then .error .malformed
    else if !isLeading unit then .ok (Char.ofNat unit, rest)
    else match rest with
      | [] => .error .unfinished
      | ['\\'] => .error .unfinished
      | '\\' :: 'u' :: rest =>
        match codeUnit rest with
        | .error e => .error e
        | .ok (second, rest) =>
          if isTrailing second then
            .ok (Char.ofNat (0x10000 + 1024 * (unit - 0xD800) + (second - 0xDC00)), rest)
          else .error .malformed
      | _ => .error .malformed

/-- The character that a single letter after a backslash stands for. -/
def simpleEscape? (c : Char) : Option Char :=
  match c with
  | '"' => some '"'
  | '\\' => some '\\'
  | '/' => some '/'
  | 'b' => some '\x08'
  | 'f' => some '\x0c'
  | 'n' => some '\n'
  | 'r' => some '\r'
  | 't' => some '\t'
  | _ => none

def escapeSequence (cs : List Char) : Except ReadError (Char × List Char) :=
  match cs with
  | [] => .error .unfinished
  | 'u' :: rest => unicodeEscape rest
  | c :: rest =>
    match simpleEscape? c with
    | some c => .ok (c, rest)
    | none => .error .malformed

/-- The characters of a text whose opening quote has been taken. Every step takes a character, so a
list no shorter than what is left bounds the steps. -/
def characters : List Char → Reader (List Char)
  | [], _ => .error .unfinished
  | _ :: bound, cs =>
    match cs with
    | [] => .error .unfinished
    | '"' :: rest => .ok ([], rest)
    | '\\' :: rest =>
      match escapeSequence rest with
      | .error e => .error e
      | .ok (c, rest) => (characters bound rest).map fun (s, rest) => (c :: s, rest)
    | c :: rest =>
      if c.toNat < 0x20 then .error .malformed
      else (characters bound rest).map fun (s, rest) => (c :: s, rest)

/-- A text whose opening quote has been taken. -/
def textTail : Reader String := fun cs =>
  (characters cs cs).map fun (s, rest) => (String.ofList s, rest)

/-- Passes over a text whose opening quote has been taken. Which characters its code units make is
not looked at. The steps are bounded as in `characters`. -/
def skipCharacters : List Char → List Char → Except ReadError (List Char)
  | [], _ => .error .unfinished
  | _ :: bound, cs =>
    match cs with
    | [] => .error .unfinished
    | '"' :: rest => .ok rest
    | '\\' :: [] => .error .unfinished
    | '\\' :: 'u' :: rest =>
      match codeUnit rest with
      | .error e => .error e
      | .ok (_, rest) => skipCharacters bound rest
    | '\\' :: c :: rest =>
      if (simpleEscape? c).isSome then skipCharacters bound rest else .error .malformed
    | c :: rest => if c.toNat < 0x20 then .error .malformed else skipCharacters bound rest

def skipText (cs : List Char) : Except ReadError (List Char) :=
  skipCharacters cs cs

/-- A number as it is written: a whole one has neither places nor an exponent. -/
structure Number where
  numeral : Numeral
  whole : Bool

/-- The digits after a point, at least one. -/
def places (cs : List Char) : Except ReadError (List Char × List Char) :=
  match cs.takeWhile Char.isDigit, cs.dropWhile Char.isDigit with
  | [], [] => .error .unfinished
  | [], _ => .error .malformed
  | ds, rest => .ok (ds, rest)

/-- The exponent after its letter: a possible sign and at least one digit. -/
def exponent (cs : List Char) : Except ReadError (Int × List Char) :=
  let (negative, cs) := Numeral.sign cs
  (places cs).map fun (ds, rest) =>
    (if negative then -(Numeral.value 0 ds : Int) else Numeral.value 0 ds, rest)

/-- The places and exponent that follow the digits of a number. -/
def fractionAndExponent (negative : Bool) (ds : List Char) : Reader Number := fun cs => do
  let (fraction, cs) ← match cs with
    | '.' :: rest => places rest
    | _ => .ok ([], cs)
  let (power, whole, cs) ← match cs with
    | 'e' :: rest | 'E' :: rest => (exponent rest).map fun (e, rest) => (e, false, rest)
    | _ => .ok (0, fraction.isEmpty, cs)
  .ok (⟨⟨negative, Numeral.value 0 (ds ++ fraction), power - fraction.length⟩, whole⟩, cs)

/-- A number whose sign has been taken. A leading zero stands alone. -/
def number (negative : Bool) : Reader Number := fun cs =>
  match cs with
  | [] => .error .unfinished
  | '0' :: rest =>
    match rest with
    | c :: _ => if c.isDigit then .error .malformed else fractionAndExponent negative ['0'] rest
    | [] => fractionAndExponent negative ['0'] rest
  | c :: _ =>
    if c.isDigit then
      fractionAndExponent negative (cs.takeWhile Char.isDigit) (cs.dropWhile Char.isDigit)
    else .error .malformed

/-- How the text of a number becomes a float. There is none for a number that is too large. -/
abbrev FloatRule := List Char → Option Float

/-- The nearest float to a number whose sign has been taken. -/
def nearestFloat? (negative : Bool) (digits : List Char) : Option Float :=
  (number negative digits).toOption.map fun (n, _) => n.numeral.toFloat

/-- The rule that rounds once, to the nearest float. -/
def FloatRule.nearest : FloatRule
  | '-' :: digits => nearestFloat? true digits
  | digits => nearestFloat? false digits

/-- The float of a number with the given text. A whole number that fits a word of 64 bits is rounded to
the nearest float, and all others are left to the rule, which must come to a finite one. -/
def Number.float? (floats : FloatRule) (n : Number) (text : List Char) : Option Float :=
  if n.whole && n.numeral.digits < UInt64.size then
    some (Numeral.toFloat ⟨n.numeral.negative, n.numeral.digits, 0⟩)
  else (floats text).filter Float.isFinite

/-- A number whose sign has been taken, with its float. A number without one is refused. -/
def numberWithFloat (floats : FloatRule) (negative : Bool) : Reader (Number × Float) := fun cs => do
  let (n, rest) ← number negative cs
  let digits := cs.take (cs.length - rest.length)
  match n.float? floats (if negative then '-' :: digits else digits) with
  | some x => .ok ((n, x), rest)
  | none => .error .malformed

/-- At least one digit, and the text after the digits. -/
def skipDigits (cs : List Char) : Except ReadError (List Char) :=
  match cs with
  | c :: _ => if c.isDigit then .ok (cs.dropWhile Char.isDigit) else .error .malformed
  | [] => .error .malformed

/-- Passes over a number whose sign has been taken, whatever its size. A number that ends too early
counts as malformed here. -/
def skipNumber (cs : List Char) : Except ReadError (List Char) := do
  let cs ← match cs with
    | '0' :: rest =>
      match rest with
      | c :: _ => if c.isDigit then .error .malformed else .ok rest
      | [] => .ok rest
    | _ => skipDigits cs
  let cs ← match cs with
    | '.' :: rest => skipDigits rest
    | _ => .ok cs
  match cs with
  | 'e' :: rest | 'E' :: rest => skipDigits (Numeral.sign rest).2
  | _ => .ok cs

end Lockstep.Json
