import PagedTable.Failure

namespace PagedTable

-- The total counts the rows of all pages, so it is at least that of this page.
structure Page where
  rows : List Value := []
  total : Number := 0
  enough : total.less (.int rows.length) = false := by rfl

namespace Page

def make (rows : List Value) (total : Number) : Except Fault Page :=
  if enough : total.less (.int rows.length) = false then .ok { rows, total, enough }
  else .error (.totalTooSmall total rows.length)

def empty : Page := {}

def fits (p : Page) (pageSize : Number) : Bool := (Number.int p.rows.length).atMost pageSize

def same (p q : Page) : Bool := Value.sameItems p.rows q.rows && p.total.same q.total

end Page

def successStatus : String := "Success"

-- Details stay with the provider; two results are equal without them.
structure MutationResult where
  status : String := successStatus
  message : Option String := none
deriving DecidableEq

def MutationResult.ok (r : MutationResult) : Bool := r.status = successStatus

-- What a provider call comes back with.
inductive Delivered where
  | page (p : Page)
  | mutation (r : MutationResult)
  | value (v : Value)

def Delivered.kindName : Delivered → String
  | .page _ => "Page"
  | .mutation _ => "MutationResult"
  | .value v => v.kindName

structure Outcome where
  result : Delivered := .value .null
  error : Option Fault := none

-- A description of an outcome. The page it stands for may turn out to be impossible.
inductive Delivery where
  | page (rows : List Value) (total : Option Number)
  | mutation (r : MutationResult)
  | value (v : Value)
  | fail (fault : Fault)

namespace Delivery

def outcome : Delivery → Except Fault Outcome
  | .page rows total =>
    (Page.make rows (total.getD (.int rows.length))).map fun p => { result := .page p }
  | .mutation r => .ok { result := .mutation r }
  | .value v => .ok { result := .value v }
  | .fail fault => .ok { error := some fault }

end Delivery

end PagedTable
