import PagedTable.Failure

namespace PagedTable

structure Paging where
  index : Number := 0
  size : Number := 50
deriving DecidableEq

def defaultPageSize : Int := 50

namespace Paging

def checkIndex (n : Number) : Except Fault Number :=
  if n.less 0 then .error (.outOfRange "page_index" ">= 0" n) else .ok n

def checkSize (n : Number) : Except Fault Number :=
  if n.atMost 0 then .error (.outOfRange "page_size" "> 0" n) else .ok n

def make (index size : Number) : Except Fault Paging := do
  let index ← checkIndex index
  let size ← checkSize size
  return { index, size }

def setIndex (p : Paging) (n : Number) : Except Fault Paging :=
  (checkIndex n).map fun index => { p with index }

def setSize (p : Paging) (n : Number) : Except Fault Paging :=
  (checkSize n).map fun size => { p with size }

def skip (p : Paging) : Except Fault Number :=
  match p.index.mul p.size with
  | some n => .ok n
  | none => .error .overflow

end Paging

inductive Direction where
  | asc
  | desc
deriving DecidableEq

namespace Direction

def text : Direction → String
  | .asc => "asc"
  | .desc => "desc"

def ofText? (s : String) : Option Direction :=
  if s = "asc" then some .asc else if s = "desc" then some .desc else none

def choices : List String := ["asc", "desc"]

end Direction

-- At most one column; an empty name counts as none.
structure Sorting where
  column : Option String := none
  direction : Direction := .asc
deriving DecidableEq

namespace Sorting

def make (column : Option String) (direction : Value) : Except Fault Sorting :=
  match direction with
  | .text s =>
    match Direction.ofText? s with
    | some direction => .ok { column, direction }
    | none => .error (.notOneOf "direction" Direction.choices direction)
  | _ => .error (.notOneOf "direction" Direction.choices direction)

def active? (s : Sorting) : Option String :=
  match s.column with
  | some c => if c = "" then none else some c
  | none => none

def isActive (s : Sorting) : Bool := s.active?.isSome

end Sorting

end PagedTable
