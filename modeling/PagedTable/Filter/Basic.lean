import PagedTable.Value.Path
import PagedTable.Text.Blank
import PagedTable.Text.Order

namespace PagedTable

inductive FilterKind where
  | text
  | dropdown
  | dialogTable
  | date
  | dateRange
deriving DecidableEq

namespace FilterKind

def all : List FilterKind := [.text, .dropdown, .dialogTable, .date, .dateRange]

def name : FilterKind → String
  | .text => "text"
  | .dropdown => "dropdown"
  | .dialogTable => "dialog-table"
  | .date => "date"
  | .dateRange => "date-range"

def ofName? (s : String) : Option FilterKind := all.find? fun k => k.name = s

def read (v : Value) : Except Fault FilterKind :=
  match v with
  | .text s =>
    match ofName? s with
    | some k => .ok k
    | none => .error (.notOneOf "type" (all.map name) v)
  | _ => .error (.notOneOf "type" (all.map name) v)

end FilterKind

-- One filter. `httpId` names it towards the backend; a date range uses the two ids of its ends.
-- The filters in `dependents` go back to their defaults when this one changes.
structure FilterDef where
  id : String
  kind : FilterKind := .text
  httpId : String := id
  name : String := ""
  default : Value := .null
  multiple : Bool := false
  choices : List (String × String) := []
  visible : Bool := true
  startHttpId : String := "StartDateTime"
  endHttpId : String := "EndDateTime"
  dependents : List String := []

-- The entry of a filter that stands for no restriction.
def allKey : String := "all"

def searchFilterId : String := "Search"

def searchFilter : FilterDef := { id := searchFilterId, name := "general.search", visible := false }

namespace Value

def isAllKey : Value → Bool
  | .text s => s = allKey
  | _ => false

def unset : Value → Bool
  | .null => true
  | .text s => s = "" || s = allKey
  | .range a b => a.isNull && b.isNull
  | .list items | .tuple items | .set items => items.all isAllKey
  | _ => false

def effective (v : Value) : Value := if v.unset then .null else v

def isDate : Value → Bool
  | .date _ | .moment _ => true
  | _ => false

end Value

namespace FilterDef

def isMultiple (d : FilterDef) : Bool :=
  d.multiple && (d.kind = .dropdown || d.kind = .dialogTable)

def refuse {α : Type} (d : FilterDef) (expected : Expectation) (got : Value) : Except Fault α :=
  .error (.wrongShape d.id expected got.kindName)

def stripAll (d : FilterDef) : List Value → Except Fault (List String)
  | [] => .ok []
  | .text s :: rest => (d.stripAll rest).map (Text.strip s :: ·)
  | v :: _ => d.refuse .strings v

-- The sorted tuple of distinct stripped strings.
def collect (d : FilterDef) (items : List Value) : Except Fault Value :=
  (d.stripAll items).map fun texts => .tuple ((Text.sort (Text.distinct texts)).map .text)

-- Checks a value and brings it to normal form: strings stripped, collections of strings as sorted
-- tuples, dates and ranges as they are.
def normalize (d : FilterDef) (v : Value) : Except Fault Value :=
  match v with
  | .null => .ok .null
  | _ =>
    match d.kind with
    | .dateRange =>
      match v with
      | .range _ _ => .ok v
      | _ => d.refuse .dateRange v
    | .date => if v.isDate then .ok v else d.refuse .date v
    | _ =>
      if d.isMultiple then
        match v with
        | .text _ => d.collect [v]
        | .list items | .tuple items | .set items => d.collect items
        | _ => d.refuse .collection v
      else
        match v with
        | .text s => .ok (.text (Text.strip s))
        | _ => d.refuse .string v

end FilterDef

end PagedTable
