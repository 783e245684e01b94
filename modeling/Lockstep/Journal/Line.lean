import Lockstep.Number.Decimal

namespace Lockstep

/-- How important a line is, the most important first. -/
inductive Level where
  | error
  | warn
  | info
  | debug
  | trace
deriving DecidableEq, Repr

namespace Level

def name : Level → String
  | error => "ERROR"
  | warn => "WARN"
  | info => "INFO"
  | debug => "DEBUG"
  | trace => "TRACE"

/-- The rank of a level, lowest for the most important. -/
def rank : Level → Nat
  | error => 1
  | warn => 2
  | info => 3
  | debug => 4
  | trace => 5

end Level

/-- The part of the program that writes a line. -/
inductive Origin where
  | program
  | bridge
  | orchestrator
  | runner
  | visualizer
  | world
deriving DecidableEq, Repr

/-- The name under which an origin appears in the journal and in filters. -/
def Origin.target : Origin → String
  | program => "fieldtest_sim"
  | bridge => "fieldtest_sim::bridge"
  | orchestrator => "fieldtest_sim::orchestrator"
  | runner => "fieldtest_sim::runner"
  | visualizer => "fieldtest_sim::visualizer"
  | world => "fieldtest_sim::world"

/-- How important a line is, which part of the program it comes from, and what it says. -/
structure JournalLine where
  level : Level
  origin : Origin
  message : String
deriving DecidableEq

namespace JournalLine

/-- The written form of a character of a message. Controls that a terminal would obey are written as
their code points; tabs and line ends stay what they are. -/
def character (c : Char) : List Char :=
  match c with
  | '\x07' => ['\\', 'x', '0', '7']
  | '\x08' => ['\\', 'x', '0', '8']
  | '\x0c' => ['\\', 'x', '0', 'c']
  | '\x1b' => ['\\', 'x', '1', 'b']
  | '\x7f' => ['\\', 'x', '7', 'f']
  | c =>
    if 0x80 ≤ c.toNat && c.toNat ≤ 0x9F then
      ['\\', 'u', '\x7b'] ++ Nat.toDigits 16 c.toNat ++ ['\x7d']
    else [c]

/-- The line without the time at which it was written. -/
def text (l : JournalLine) : String :=
  s!"{l.level.name} {l.origin.target}: {String.ofList (l.message.toList.flatMap character)}"

end JournalLine

end Lockstep
