import Lockstep.Validation.Predicate
import Lockstep.Validation.Report
import Lockstep.Text.Escaped

namespace Lockstep

/-- Predicates that have to pass one after the other, with the progress that they have made. Only the first
one that has not passed yet is asked, at most once per snapshot, so two predicates never pass on the same one.
The number of the last snapshot is kept with its report: a snapshot with that number gets that report again. -/
structure Sequence where
  name : String
  passed : List Predicate := []
  waiting : List Predicate
  last : Option (Nat × SequenceReport) := none

namespace Sequence

/-- A sequence on which nothing has been evaluated yet. -/
def fresh (name : String) (predicates : List Predicate) : Sequence :=
  { name, waiting := predicates }

/-- The sequence with one more predicate behind all others. -/
def extended (s : Sequence) (p : Predicate) : Sequence :=
  { s with waiting := s.waiting ++ [p] }

def predicates (s : Sequence) : List Predicate :=
  s.passed ++ s.waiting

def size (s : Sequence) : Nat :=
  s.predicates.length

/-- The number of predicates that have passed, which is the position of the active one. -/
def cursor (s : Sequence) : Nat :=
  s.passed.length

def isPassed (s : Sequence) : Bool :=
  s.waiting.isEmpty

/-- The report of this progress. -/
def report (s : Sequence) (status : Status) (predicate detail : Option String) : SequenceReport :=
  { sequence := s.name, status, predicate, completed := s.cursor, total := s.size, detail }

/-- The progress with one more predicate that has passed. -/
def advanced (s : Sequence) : Sequence :=
  { s with passed := s.passed ++ s.waiting.take 1, waiting := s.waiting.drop 1 }

/-- Asks the active predicate. One that passes gives way to the next one, and its detail is reported only if it
was the last. The sequence is given back as it is left, also where a predicate breaks off: by the time the next
predicate is asked for its name, the sequence has moved on to it. -/
def step (s : Sequence) (w : Snapshot) : Except Panic SequenceReport × Sequence :=
  match s.waiting with
  | [] => (.ok (s.report .passed none none), s)
  | active :: next =>
    match active.answer w with
    | .error panic => (.error panic, s)
    | .ok (verdict, name) =>
      match verdict.status with
      | .passed =>
        let s' := s.advanced
        match next with
        | [] => (.ok (s'.report .passed none verdict.detail), s')
        | later :: _ => (later.name.map fun name => s'.report .pending (some name) none, s')
      | status => (.ok (s.report status (some name) verdict.detail), s)

/-- Takes a step and keeps the report of it, if there is one. -/
def consume (s : Sequence) (w : Snapshot) : Except Panic SequenceReport × Sequence :=
  match s.step w with
  | (.ok report, s') => (.ok report, { s' with last := some (w.tick, report) })
  | (.error panic, s') => (.error panic, s')

/-- The evaluation in place: what it answers, and how it leaves the sequence. -/
def attempt (s : Sequence) (w : Snapshot) : Except Panic SequenceReport × Sequence :=
  match s.last with
  | some (tick, report) => if tick = w.tick then (.ok report, s) else s.consume w
  | none => s.consume w

/-- The report on a snapshot, with the sequence after it. -/
def evaluate (s : Sequence) (w : Snapshot) : Except Panic (SequenceReport × Sequence) :=
  match s.attempt w with
  | (.ok report, s') => .ok (report, s')
  | (.error panic, _) => .error panic

/-- The sequence with its fields spelled out. All predicates are asked for their names. -/
def listing (s : Sequence) : Except Panic String := do
  let names ← s.predicates.mapM fun p => p.name
  let names := String.intercalate ", " (names.map Escaped.quote)
  return s!"ValidationSequence \x7b name: {Escaped.quote s.name}, validations: [{names}], cursor: {s.cursor} \x7d"

end Sequence

/-- Sequences that are evaluated side by side, without regard to each other. -/
structure SequenceSet where
  sequences : List Sequence := []

namespace SequenceSet

def size (s : SequenceSet) : Nat :=
  s.sequences.length

def isEmpty (s : SequenceSet) : Bool :=
  s.sequences.isEmpty

/-- The reports of all sequences in order, or how the first one that breaks off does. -/
def evaluateAll (w : Snapshot) :
    List Sequence → Except Panic (List SequenceReport × List Sequence)
  | [] => .ok ([], [])
  | s :: rest =>
    match s.evaluate w with
    | .error panic => .error panic
    | .ok (report, s') =>
      match evaluateAll w rest with
      | .error panic => .error panic
      | .ok (reports, rest') => .ok (report :: reports, s' :: rest')

def evaluate (s : SequenceSet) (w : Snapshot) : Except Panic (Report × SequenceSet) :=
  (evaluateAll w s.sequences).map fun (reports, rest) => (⟨w.tick, reports⟩, ⟨rest⟩)

/-- The set with its fields spelled out. -/
def listing (s : SequenceSet) : Except Panic String := do
  let sequences := String.intercalate ", " (← s.sequences.mapM Sequence.listing)
  return s!"ValidationSequenceSet \x7b sequences: [{sequences}] \x7d"

end SequenceSet

end Lockstep
