import Lockstep.Display.Dashboard
import Lockstep.Number.Decimal

namespace Lockstep.Screen

/-- Cuts or fills a row to a width. -/
def fit (width : Nat) (row : List Char) : List Char :=
  row.take width ++ List.replicate (width - row.length) ' '

/-- A frame of lines around rows, with a title in its upper edge. -/
def boxed (width height : Nat) (title : String) (rows : List (List Char)) : List (List Char) :=
  let inner := width - 2
  let edge (text : List Char) :=
    let text := text.take inner
    text ++ List.replicate (inner - text.length) '─'
  let body := (rows ++ List.replicate height []).take (height - 2)
  ('┌' :: edge title.toList ++ ['┐']) ::
    body.map (fun row => '│' :: fit inner row ++ ['│']) ++ ['└' :: edge [] ++ ['┘']]

/-- The name of the program, the simulated time, the tick and the overall state. -/
def header (d : Dashboard) : String :=
  let (tick, elapsed) := match d.latest with
    | some f => (f.world.tick, f.elapsed)
    | none => (0, 0.0)
  s!"fieldtest  |  t={Decimal.fixed 2 elapsed}s  |  Tick: {tick}  |  {d.state.name}"

/-- A bar for the share of passed sequences, with the share written in its middle. The bar leaves out
the label and the column right after it. -/
def gauge (width : Nat) (passed total : Nat) : List Char :=
  let ratio := if total == 0 then 1.0 else Binary64.ofNat passed / Binary64.ofNat total
  let percent := (ratio * 100.0).toUInt16.toNat
  let filled := Rounding.halfUp (width * percent) 100
  let label := s!"{passed}/{total}".toList.take width
  let start := (width - label.length) / 2
  (List.range width).map fun column =>
    if start ≤ column && column < start + label.length then label[column - start]?.getD ' '
    else if column < filled && column != start + label.length then '█'
    else ' '

/-- The part of a column of the given height, in eighths of a row, that lies in one row. -/
def barPart (height row : Nat) : Char :=
  let left := height - 8 * row
  if 8 ≤ left then '█' else [' ', '▁', '▂', '▃', '▄', '▅', '▆', '▇'][left]?.getD ' '

/-- One column per value, scaled so that the largest value fills the height. -/
def sparkline (width height : Nat) (values : List Nat) : List (List Char) :=
  let top := values.foldl max 0
  let heights := (values.take width).map fun v => v * (8 * height) / top
  (List.range height).reverse.map fun row => heights.map (barPart · row)

/-- A row of a table: three columns of 10, 9 and 26 characters with a blank between them. -/
def tableRow (sequence status predicate : String) : List Char :=
  fit 10 sequence.toList ++ ' ' :: fit 9 status.toList ++ ' ' :: fit 26 predicate.toList

def table (title : String) (height : Nat) (r : Report) : List (List Char) :=
  boxed 49 height title <|
    tableRow "Sequence" "Status" "Predicate" ::
      r.sequences.map fun s => tableRow s.sequence s.status.name (s.predicate.getD "-")

/-- The tables of both sets side by side. -/
def tables (d : Dashboard) (height : Nat) : List (List Char) :=
  let (always, eventually) := match d.latest with
    | some f => (f.always, f.eventually)
    | none => ({}, {})
  List.zipWith (· ++ ·) (table "Always" height always) (table "Eventually" height eventually)

/-- The 28 inner rows. -/
def body (d : Dashboard) : List (List Char) :=
  let head := [(header d).toList, [], List.replicate 98 '─']
  let middle := match d.layout with
    | .full =>
      let (passed, total) := match d.latest with
        | some f => (f.eventually.count .passed, f.eventually.sequences.length)
        | none => (0, 0)
      boxed 98 3 "Eventually" [gauge 96 passed total] ++
        boxed 98 6 "Unmet eventually sequences (last 100 ticks)" (sparkline 96 4 d.history) ++
        tables d 15
    | .compact => tables d 24
  head ++ middle ++ ["Press 'q' to close".toList]

/-- All rows of the screen, 30 rows of 100 columns. The outermost rows and columns stay blank, and every
character takes one column. -/
def rows (d : Dashboard) : List String :=
  let blank := List.replicate 100 ' '
  ([blank] ++ (body d).map (fun row => ' ' :: fit 98 row ++ [' ']) ++ [blank]).map String.ofList

/-- All rows of a screen on which nothing was drawn. -/
def blankRows : List String :=
  List.replicate 30 (String.ofList (List.replicate 100 ' '))

end Lockstep.Screen
