namespace Lockstep

/-- Why a recording could not be saved. -/
inductive SaveError where
  | noDirectory
  | notDirectory
  | isDirectory
  | notPermitted
  | noSpace
  | longName
  | other (message : String)
deriving DecidableEq

/-- The error with its number and kind, where it has them. -/
def SaveError.text (e : SaveError) : String :=
  let numbered (code kind message : String) : String :=
    s!"Os \x7b code: {code}, kind: {kind}, message: \"{message}\" \x7d"
  match e with
  | noDirectory => numbered "2" "NotFound" "No such file or directory"
  | notDirectory => numbered "20" "NotADirectory" "Not a directory"
  | isDirectory => numbered "21" "IsADirectory" "Is a directory"
  | notPermitted => numbered "13" "PermissionDenied" "Permission denied"
  | noSpace => numbered "28" "StorageFull" "No space left on device"
  | longName => numbered "36" "InvalidFilename" "File name too long"
  | other message => message

/-- A place in a file tree: the names that lead to it from the root. -/
abbrev Place := List String

/-- A file tree. In a directory that is not sealed every name is free for a new file, but for those of
the directories and files in it. -/
structure FileTree where
  directories : List Place
  /-- Directories that take no new files. -/
  sealed : List Place := []
  /-- Files and devices that take whatever is written to them. -/
  sinks : List Place := []
  /-- Devices that take nothing. -/
  full : List Place := []
  /-- Where paths begin that do not begin at the root. -/
  current : Place := []

namespace FileTree

/-- The longest name, and the longest path, in bytes. -/
def maxName : Nat := 255
def maxPath : Nat := 4095

def isDirectory (t : FileTree) (p : Place) : Bool :=
  p.isEmpty || t.directories.contains p

/-- The directory that a name leads to. -/
def enter (t : FileTree) (here : Place) (name : String) : Except SaveError Place :=
  if name = "." then .ok here
  else if name = ".." then .ok here.dropLast
  else if maxName < name.utf8ByteSize then .error .longName
  else if t.isDirectory (here ++ [name]) then .ok (here ++ [name])
  else if (t.sinks ++ t.full).contains (here ++ [name]) then .error .notDirectory
  else .error .noDirectory

/-- What comes of writing a file in a directory. -/
def create (t : FileTree) (here : Place) (name : String) : Except SaveError Place :=
  let place := here ++ [name]
  if maxName < name.utf8ByteSize then .error .longName
  else if t.isDirectory place then .error .isDirectory
  else if t.full.contains place then .error .noSpace
  else if t.sealed.contains here then .error .noDirectory
  else .ok place

/-- What comes of writing a file at a path: where it is, or why there can be none. A path that ends at
a directory, or in a slash, names no file. -/
def save (t : FileTree) (path : String) : Except SaveError Place := do
  if path.isEmpty then throw .noDirectory
  if maxPath < path.utf8ByteSize then throw .longName
  let start := if path.startsWith '/' then [] else t.current
  match ((path.splitOn "/").filter (!·.isEmpty)).reverse with
  | [] => throw .isDirectory
  | name :: front =>
    let here ← front.reverse.foldlM t.enter start
    if path.endsWith '/' || name = "." || name = ".." then throw .isDirectory
    t.create here name

end FileTree

end Lockstep
