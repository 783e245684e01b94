namespace Lockstep

/-- The cells, and for each handle the position of its cell. Several handles may name one cell; what is done
through one of them shows through all of them, and through no others. -/
structure Shared (α : Type) where
  cells : List α
  handles : List Nat

namespace Shared

/-- One cell with one handle on it. -/
def single {α : Type} (a : α) : Shared α := ⟨[a], [0]⟩

/-- The value behind a handle. -/
def read? {α : Type} (s : Shared α) (handle : Nat) : Option α :=
  s.handles[handle]?.bind (s.cells[·]?)

/-- Changes the value behind a handle. -/
def modify {α : Type} (s : Shared α) (handle : Nat) (f : α → α) : Shared α :=
  match s.handles[handle]? with
  | some cell => { s with cells := s.cells.modify cell f }
  | none => s

/-- A further handle on the cell that a handle names. -/
def clone? {α : Type} (s : Shared α) (handle : Nat) : Option (Shared α) :=
  s.handles[handle]?.map fun cell => { s with handles := s.handles ++ [cell] }

/-- A further cell and a handle on it. -/
def insert {α : Type} (s : Shared α) (a : α) : Shared α :=
  ⟨s.cells ++ [a], s.handles ++ [s.cells.length]⟩

/-- What each handle shows, in the order in which the handles were made. -/
def readings {α : Type} (s : Shared α) : List α :=
  s.handles.filterMap (s.cells[·]?)

end Shared

end Lockstep
