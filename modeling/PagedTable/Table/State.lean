import PagedTable.Table.Plan
import PagedTable.Filter.State
import PagedTable.Query.Build
import PagedTable.Value.Members

namespace PagedTable

-- The part of a table that describes what is shown. Descriptions are kept per mode, each under the
-- number of its making.
structure TableView where
  plan : TablePlan
  mode : TableMode := .readWrite
  parent : Value := .null
  filters : FilterState := .empty
  paging : Paging := {}
  sorting : Sorting := {}
  rows : List Value := []
  total : Number := 0
  selected : List Value := []
  described : List (TableMode × Nat × TableDescriptor) := []
  made : Nat := 0

namespace TableView

def filterDefs (v : TableView) : List FilterDef := v.filters.defs.map fun e => e.2

-- The description for the current mode and parent, with its number; made when it is first asked
-- for.
def describe (v : TableView) : TableView × Except Fault (Nat × TableDescriptor) :=
  match Entries.get? v.mode v.described with
  | some known => (v, .ok known)
  | none =>
    match v.plan.describe v.mode v.parent v.filterDefs with
    | .error e => (v, .error e)
    | .ok d =>
      ({ v with described := Entries.put v.mode (v.made, d) v.described, made := v.made + 1 },
        .ok (v.made, d))

def forget (v : TableView) : TableView := { v with described := [] }

def statics (v : TableView) : Except Fault Fields := v.plan.statics v.parent

def query (v : TableView) : Except Fault Query := do
  let statics ← v.statics
  Query.build v.filters v.paging v.sorting statics

def parentId (v : TableView) : Except Fault Value := v.plan.parentId v.parent

def context (v : TableView) (key : Nat) (row : Value) : ActionContext where
  table := some key
  auth := v.parent
  selection := v.selected
  row := row

def toFirstPage (v : TableView) : TableView := { v with paging := { v.paging with index := 0 } }

def setFilter (v : TableView) (id : String) (value : Value) : TableView × Except Fault Bool :=
  match v.filters.set id value with
  | (filters, .ok true) => ({ v with filters }.toFirstPage, .ok true)
  | (filters, outcome) => ({ v with filters }, outcome)

def setSearch (v : TableView) (text : Value) : TableView × Except Fault Bool :=
  if Entries.has searchFilterId v.filters.defs then v.setFilter searchFilterId text
  else (v, .ok false)

def resetFilters (v : TableView) : TableView × Except Fault Bool :=
  match v.filters.reset with
  | (filters, .ok true) => ({ v with filters }.toFirstPage, .ok true)
  | (filters, outcome) => ({ v with filters }, outcome)

def applySorting (v : TableView) (sorting : Sorting) : TableView × Except Fault Bool :=
  if sorting = v.sorting then (v, .ok false) else ({ v with sorting }.toFirstPage, .ok true)

def readDirection (direction : Value) : Except Fault Direction :=
  match direction with
  | .text s =>
    match Direction.ofText? s with
    | some d => .ok d
    | none => .error (.badDirection direction)
  | _ => .error (.badDirection direction)

-- Sorts by a column, or by none. Columns that are unknown or not sortable are passed over.
def setSort (v : TableView) (column : Option String) (direction : Value) :
    TableView × Except Fault Bool :=
  match readDirection direction with
  | .error e => (v, .error e)
  | .ok direction =>
    match column with
    | none => v.applySorting {}
    | some id =>
      match v.describe with
      | (v, .error e) => (v, .error e)
      | (v, .ok (_, d)) =>
        match d.column? id with
        | none => (v, .ok false)
        | some c =>
          if c.sortable then v.applySorting { column := some id, direction } else (v, .ok false)

def setPage (v : TableView) (index : Number) : TableView × Except Fault Bool :=
  if index.less 0 then (v, .error (.badPageIndex index))
  else if index.same v.paging.index then (v, .ok false)
  else ({ v with paging := { v.paging with index } }, .ok true)

def setPageSize (v : TableView) (size : Number) : TableView × Except Fault Bool :=
  if size.atMost 0 then (v, .error (.badPageSize size))
  else if size.same v.paging.size then (v, .ok false)
  else ({ v with paging := { v.paging with size } }.toFirstPage, .ok true)

def rowId (v : TableView) (row : Value) : TableView × Except Fault Value :=
  match v.describe with
  | (v, .error e) => (v, .error e)
  | (v, .ok (_, d)) => (v, row.identity d.table.rowIdField)

def known (outcome : Except Fault Value) : Except Fault Value :=
  match outcome with
  | .ok id => .ok id
  | .error e => if e.isBadValue then .ok .null else .error e

def identified (v : TableView) (rows : List Value) :
    TableView × Except Fault (List (Value × Value)) :=
  match rows with
  | [] => (v, .ok [])
  | row :: rest =>
    match v.rowId row with
    | (v, outcome) =>
      match known outcome with
      | .error e => (v, .error e)
      | .ok id =>
        match v.identified rest with
        | (v, .ok others) => (v, .ok ((id, row) :: others))
        | (v, .error e) => (v, .error e)

-- Sets of identities hold only values that cannot change.
def allHashable (ids : List Value) : Except Fault Unit :=
  if Value.allHashable ids then .ok () else .error .unsupported

-- Whether an identity is among others. A set is among none, and nothing else that can change may be
-- looked for.
def isAmong (ids : List Value) (id : Value) : Except Fault Bool :=
  match id with
  | .set _ => .ok false
  | _ => if id.hashable then .ok (Members.has id ids) else .error .unsupported

def common (selected onPage : List Value) : List Value :=
  if selected.length < onPage.length then Members.meet selected onPage
  else Members.meet onPage selected

-- The selection that survives on a page: nothing, unless it is to be kept.
def surviving (v : TableView) (keep : Bool) (rows : List Value) :
    TableView × Except Fault (List Value) :=
  if keep then
    match v.identified rows with
    | (v, .error e) => (v, .error e)
    | (v, .ok pairs) =>
      let ids := pairs.map fun p => p.1
      (v, (allHashable ids).map fun _ => common v.selected (Members.ofList ids))
  else (v, .ok [])

-- The rows whose identity is wanted; in single selection only the first.
def pick (wanted : List Value) (multiple : Bool) (picked : List Value) :
    List (Value × Value) → Except Fault (List Value)
  | [] => .ok picked
  | (id, row) :: rest =>
    if id.isNull then pick wanted multiple picked rest
    else
      match isAmong wanted id with
      | .error e => .error e
      | .ok isWanted =>
        if isWanted && row.selectable then
          if multiple then pick wanted multiple (Members.add picked id) rest
          else .ok (Members.add picked id)
        else pick wanted multiple picked rest

-- The selection that asking for some identities gives; none when rows cannot be selected.
def selection (v : TableView) (ids : List Value) : TableView × Except Fault (Option (List Value)) :=
  match v.describe with
  | (v, .error e) => (v, .error e)
  | (v, .ok (_, d)) =>
    if !d.table.rowSelection.enabled then (v, .ok none)
    else
      match allHashable ids with
      | .error e => (v, .error e)
      | .ok () =>
        match v.identified v.rows with
        | (v, .error e) => (v, .error e)
        | (v, .ok pairs) =>
          (v, (pick (Members.ofList ids) d.table.rowSelection.multiple [] pairs).map some)

-- The wanted identities in the order of the rows, then those that are not on the page.
def arrange (wanted : List Value) : List Value → Except Fault (List Value)
  | [] => .ok wanted
  | id :: rest =>
    match isAmong wanted id with
    | .error e => .error e
    | .ok true => (arrange (Members.without id wanted) rest).map (id :: ·)
    | .ok false => arrange wanted rest

def orderIds (v : TableView) (ids : List Value) : TableView × Except Fault (List Value) :=
  match allHashable ids with
  | .error e => (v, .error e)
  | .ok () =>
    match v.identified v.rows with
    | (v, .error e) => (v, .error e)
    | (v, .ok pairs) => (v, arrange (Members.ofList ids) (pairs.map fun p => p.1))

def rowsAmong (ids : List Value) : List (Value × Value) → Except Fault (List Value)
  | [] => .ok []
  | (id, row) :: rest =>
    match isAmong ids id with
    | .error e => .error e
    | .ok true => (rowsAmong ids rest).map (row :: ·)
    | .ok false => rowsAmong ids rest

def selectedRows (v : TableView) : TableView × Except Fault (List Value) :=
  match v.identified v.rows with
  | (v, .error e) => (v, .error e)
  | (v, .ok pairs) => (v, rowsAmong v.selected pairs)

def rowById (v : TableView) (id : Value) : TableView × Except Fault Value :=
  match v.identified v.rows with
  | (v, .error e) => (v, .error e)
  | (v, .ok pairs) => (v, .ok (((pairs.find? fun p => p.1.same id).map fun p => p.2).getD .null))

end TableView

end PagedTable
