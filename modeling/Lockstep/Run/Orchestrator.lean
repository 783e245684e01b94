import Lockstep.Run.Driver
import Lockstep.Run.Observer
import Lockstep.Validation.Engine

/-!
The run of a test. While the time since its start is below the timeout, a run takes a turn: it
advances by one tick, evaluates the eventually set and then the always set on the snapshot, tells the
observer, and ends if the always rule is broken or if an early exit is wanted and the eventually set
is not empty and has passed. The eventually rule decides a run that did not break the always rule.

An orchestrator can make several runs in turn. Its driver keeps the ticks and the clock, and a run
measures time from where the clock stands when it starts.
-/

namespace Lockstep

structure Orchestrator (σ ω : Type) where
  driver : TickDriver σ
  observer : Observer ω
  notes : ω
  engine : Engine := .standard
  earlyExit : Bool := false

namespace Orchestrator

/-- The state of a run between two turns. -/
structure Progress (σ ω : Type) where
  driver : TickDriver σ
  notes : ω
  always : SequenceSet
  eventually : SequenceSet
  elapsed : Span := .zero
  last : Option Report := none

/-- What a turn leads to: the next turn, the judgement by the eventually rule, an outcome at once, or
a predicate that broke off. -/
inductive Turn (σ ω : Type) where
  | next (p : Progress σ ω)
  | judge (p : Progress σ ω)
  | ended (o : Outcome) (p : Progress σ ω)
  | broken (panic : Panic) (p : Progress σ ω)

def turn {σ ω : Type} (o : Orchestrator σ ω) (start tick : Span) (p : Progress σ ω) : Turn σ ω :=
  let (answer, driver) := p.driver.advance tick
  let p := { p with driver }
  match answer with
  | .error e => .ended (.failedException (.transport e)) p
  | .ok world =>
    let p := { p with elapsed := driver.elapsed.since start }
    match o.engine.evaluate p.eventually world with
    | .error panic => .broken panic p
    | .ok (eventually, eventuallySet) =>
      match o.engine.evaluate p.always world with
      | .error panic => .broken panic p
      | .ok (always, alwaysSet) =>
        let notes := o.observer.onTick ⟨p.elapsed, world, eventually, always⟩ p.notes
        let p := { p with notes, always := alwaysSet, eventually := eventuallySet
                          last := some eventually }
        match o.engine.check .always always with
        | .error failure => .ended (.failedAlways failure) p
        | .ok () =>
          if o.earlyExit && !p.eventually.isEmpty && (o.engine.check .eventually eventually).isOk
          then .judge p else .next p

/-- The judgement of a run by its last report on the eventually set. -/
def judgement {σ ω : Type} (o : Orchestrator σ ω) (p : Progress σ ω) : Outcome :=
  match p.last with
  | none => .failedException (.configuration "run ended without issuing a tick")
  | some report =>
    match o.engine.check .eventually report with
    | .ok () => .passed
    | .error failure => .failedEventually failure

/-- The turns of a run, at most as many as given. There is no result while turns are left to take. -/
def turns {σ ω : Type} (o : Orchestrator σ ω) (start : Span) (timing : Timing) :
    Nat → Progress σ ω → Option (Except Panic Outcome × Progress σ ω)
  | 0, _ => none
  | limit + 1, p =>
    if p.elapsed < timing.timeout then
      match o.turn start timing.tick p with
      | .next p => turns o start timing limit p
      | .judge p => some (.ok (o.judgement p), p)
      | .ended outcome p => some (.ok outcome, p)
      | .broken panic p => some (.error panic, p)
    else some (.ok (o.judgement p), p)

/-- Ticks are counted in a 64 bit word, so no run takes more turns than this. -/
def maxTurns : Nat := UInt64.size

/-- Tells the observer the outcome. -/
def finish {σ ω : Type} (o : Orchestrator σ ω) (outcome : Outcome) : Orchestrator σ ω :=
  { o with notes := o.observer.onFinish outcome o.notes }

/-- Runs a test. A timing that is not valid ends the run before its first tick. When a predicate
breaks off, so does the run, and the observer is not told of an outcome. -/
def run {σ ω : Type} (o : Orchestrator σ ω) (always eventually : SequenceSet) (timing : Timing) :
    Option (Except Panic Outcome × Orchestrator σ ω) :=
  match timing.validate with
  | .error e =>
    let outcome := .failedException (.ofTiming e)
    some (.ok outcome, o.finish outcome)
  | .ok () =>
    let p := { driver := o.driver, notes := o.notes, always, eventually }
    (turns o o.driver.elapsed timing maxTurns p).map fun (ending, p) =>
      let o := { o with driver := p.driver, notes := p.notes }
      match ending with
      | .error panic => (.error panic, o)
      | .ok outcome => (.ok outcome, o.finish outcome)

end Orchestrator

end Lockstep
