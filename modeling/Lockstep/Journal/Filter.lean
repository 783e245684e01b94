import Lockstep.Journal.Directive
import Lockstep.Journal.Line

namespace Lockstep.Journal

/-- A filter: its directives in the order in which they were given. -/
structure Filter where
  directives : List Directive

namespace Filter

/-- Lets everything up to a threshold through. -/
def upTo (threshold : Threshold) : Filter := ⟨[⟨none, [], threshold⟩]⟩

/-- Reads a filter. Empty parts are passed over, and a filter without directives lets only errors
through. -/
def ofText? (text : String) : Option Filter := do
  let parts := (text.splitOn ",").filter (!·.isEmpty)
  let parsed ← parts.mapM Directive.ofText?
  if parsed.isEmpty then return upTo 1
  return ⟨parsed.filterMap fun
    | .concerning d => some d
    | .concernsNone => none⟩

/-- Whether a directive concerns a line, whose one field is its message. -/
def concerns (d : Directive) (l : JournalLine) : Bool :=
  (d.target.all fun t => t.toList.isPrefixOf l.origin.target.toList) &&
    d.fields.all (· == "message")

/-- How specific a directive is: the length of its target, and then the number of its fields. -/
def weight (d : Directive) : Nat × Nat :=
  ((d.target.map fun t => t.utf8ByteSize + 1).getD 0, d.fields.length)

/-- Of two directives for a line the one that decides. -/
def stronger (a b : Directive) : Directive :=
  let (m, n) := weight a
  let (p, q) := weight b
  if p < m || (p == m && q < n) then a else b

/-- Of the directives that concern a line the most specific one decides, and of equally specific ones the
last. -/
def lets (f : Filter) (l : JournalLine) : Bool :=
  match f.directives.filter (concerns · l) with
  | [] => false
  | d :: rest => l.level.rank ≤ (rest.foldl stronger d).threshold

end Filter

end Lockstep.Journal
