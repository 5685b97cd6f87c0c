import PagedTable.Paging
import PagedTable.Entries

namespace PagedTable

-- Queries of tables restrict by a text or by several. One made by hand may hold another value, which
-- is passed on as it is.
inductive Restriction where
  | one (s : String)
  | many (texts : List String)
  | other (v : Value)

structure Query where
  filters : List (String × Restriction) := []
  page : Number := 0
  pageSize : Number := 50
  sortField : Option String := none
  sortDirection : Option String := none

namespace Restriction

def textsOf? : List Value → Option (List String)
  | [] => some []
  | .text s :: rest => (textsOf? rest).map fun texts => s :: texts
  | _ => none

def ofValue : Value → Restriction
  | .text s => .one s
  | .tuple items =>
    match textsOf? items with
    | some texts => .many texts
    | none => .other (.tuple items)
  | v => .other v

def toValue : Restriction → Value
  | .one s => .text s
  | .many texts => .tuple (texts.map .text)
  | .other v => v

-- The value as a parameter of a REST call: several texts are joined with bars.
def parameter : Restriction → Except Fault Value
  | .one s => .ok (.text s)
  | .many texts => .ok (.text (String.intercalate "|" texts))
  | .other (.tuple _) => .error .unsupported
  | .other v => .ok v

end Restriction

namespace Query

def same (p q : Query) : Bool :=
  let restrictions (q : Query) : Value := .map (q.filters.map fun f => (f.1, f.2.toValue))
  (restrictions p).same (restrictions q) && p.page.same q.page && p.pageSize.same q.pageSize &&
    p.sortField == q.sortField && p.sortDirection == q.sortDirection

def parameters : List (String × Restriction) → Except Fault Fields
  | [] => .ok []
  | (name, r) :: rest => do
    let v ← r.parameter
    let others ← parameters rest
    return (name, v) :: others

def skip (q : Query) : Except Fault Number :=
  match q.page.mul q.pageSize with
  | some n => .ok n
  | none => .error .overflow

def sortColumn? (q : Query) : Option String :=
  match q.sortField with
  | some c => if c = "" then none else some c
  | none => none

def sortParameter? (q : Query) : Option String :=
  q.sortColumn?.map fun column => (if q.sortDirection = some "desc" then "-" else "") ++ column

-- The query as parameters of a REST call. The parameters of paging and sorting take the place of
-- filters of the same names.
def httpParams (q : Query) : Except Fault Fields := do
  let filters ← parameters q.filters
  let skip ← q.skip
  let paged := Entries.put "Limit" (.number q.pageSize) (Entries.put "Skip" (.number skip) filters)
  return match q.sortParameter? with
    | some s => Entries.put "SortFields" (.text s) paged
    | none => paged

end Query

end PagedTable
