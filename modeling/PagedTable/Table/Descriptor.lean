import PagedTable.Action.Basic
import PagedTable.Filter.Basic
import PagedTable.Paging

namespace PagedTable

inductive TableMode where
  | readWrite
  | readOnly
deriving DecidableEq

namespace TableMode

def text : TableMode → String
  | .readWrite => "RW"
  | .readOnly => "RO"

def all : List TableMode := [.readWrite, .readOnly]

def read (v : Value) : Except Fault TableMode :=
  match all.find? fun m => (Value.text m.text).same v with
  | some m => .ok m
  | none => .error (.notAMember "TableMode" v)

end TableMode

-- One column; its id is the path of the value in a row. The direction counts only when the table is
-- sorted by the column from the start, and is checked then.
structure ColumnDef where
  id : String
  name : String := ""
  sortable : Bool := false
  sorted : Bool := false
  direction : Value := .text "asc"
  visible : Bool := true
  className : String := ""
  headerClass : String := ""

structure RowSelection where
  enabled : Bool := false
  multiple : Bool := false
deriving DecidableEq

structure TableDef where
  id : String := ""
  className : String := ""
  rowIdField : String := "id"
  rowSelection : RowSelection := {}
  searchEnabled : Bool := false
  footerEnabled : Bool := true
  isEditable : Bool := false
deriving DecidableEq

structure TableDescriptor where
  mode : TableMode
  table : TableDef
  columns : List ColumnDef := []
  actions : List ActionDescriptor := []
  filters : List FilterDef := []

namespace TableDescriptor

def column? (d : TableDescriptor) (id : String) : Option ColumnDef :=
  d.columns.find? fun c => c.id = id

def action? (d : TableDescriptor) (id : String) : Option ActionDescriptor :=
  d.actions.find? fun a => a.id = id

def visibleActions (d : TableDescriptor) (ctx : ActionContext) : List ActionDescriptor :=
  d.actions.filter fun a => a.isVisible ctx

def enabledActions (d : TableDescriptor) (ctx : ActionContext) : List ActionDescriptor :=
  d.actions.filter fun a => a.isEnabled ctx

def defaultSort? (d : TableDescriptor) : Option ColumnDef := d.columns.find? fun c => c.sorted

end TableDescriptor

end PagedTable
