import PagedTable.Query.Basic
import PagedTable.Filter.State

namespace PagedTable

namespace Value

-- A date as it is sent: as it is shown, but with milliseconds when it has an offset.
def dateText : Value → Except Fault String
  | .date d => .ok (String.ofList d.iso)
  | .moment m => .ok (String.ofList (if m.offset.isSome then m.isoMillis else m.iso))
  | _ => .error .noAttribute

def restriction (v : Value) : Restriction :=
  match v with
  | .list items | .tuple items | .set items => .many (Text.sort (items.map plain))
  | .date _ | .moment _ =>
    match v.dateText with
    | .ok s => .one s
    | .error _ => .one v.plain
  | _ => .one v.plain

-- The form of a static restriction: a truth value alone is sent in lower case.
def staticRestriction : Value → Restriction
  | .bool b => .one (if b then "true" else "false")
  | v => v.restriction

end Value

namespace Query

abbrev Filters := List (String × Restriction)

def addEnd (httpId : String) (value : Value) (filters : Filters) : Except Fault Filters :=
  match value with
  | .null => .ok filters
  | _ => value.dateText.map fun s => Entries.put httpId (.one s) filters

def addFilter (filters : Filters) (d : FilterDef) (value : Value) : Except Fault Filters :=
  match d.kind with
  | .dateRange =>
    match value with
    | .range first last => do
      let filters ← addEnd d.startHttpId first filters
      addEnd d.endHttpId last filters
    | _ => .error .unexpected
  | _ => .ok (Entries.put d.httpId value.restriction filters)

def addFilters (filters : Filters) : List (FilterDef × Value) → Except Fault Filters
  | [] => .ok filters
  | (d, value) :: rest => do
    let filters ← addFilter filters d value
    addFilters filters rest

def addStatics (filters : Filters) : List (String × Value) → Filters
  | [] => filters
  | (key, value) :: rest =>
    if value.unset then addStatics filters rest
    else addStatics (Entries.put key value.staticRestriction filters) rest

-- The static restrictions win over filters of the same names.
def build (state : FilterState) (paging : Paging) (sorting : Sorting)
    (statics : List (String × Value)) : Except Fault Query := do
  let filters ← addFilters [] state.active
  return {
    filters := addStatics filters statics
    page := paging.index
    pageSize := paging.size
    sortField := sorting.active?
    sortDirection := sorting.active?.map fun _ => sorting.direction.text }

end Query

end PagedTable
