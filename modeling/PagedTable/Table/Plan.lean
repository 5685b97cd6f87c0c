import PagedTable.Table.Descriptor
import PagedTable.Provider
import PagedTable.Settings.Store

namespace PagedTable

abbrev Messages := List (String × TextPair)

def defaultMessages : Messages := [
  ("create.success", ⟨"general.create_success", "The record was created"⟩),
  ("create.error", ⟨"general.create_error", "The record could not be created"⟩),
  ("update.success", ⟨"general.update_success", "The record was updated"⟩),
  ("update.error", ⟨"general.update_error", "The record could not be updated"⟩),
  ("remove.success", ⟨"general.delete_success", "The records were deleted"⟩),
  ("remove.error", ⟨"general.delete_error", "The records could not be deleted"⟩),
  ("assign.success", ⟨"general.assign_success", "The records were assigned"⟩),
  ("assign.error", ⟨"general.assign_error", "The records could not be assigned"⟩),
  ("unassign.success", ⟨"general.unassign_success", "The records were unassigned"⟩),
  ("unassign.error", ⟨"general.unassign_error", "The records could not be unassigned"⟩)]

def Value.parentIdentity (parent : Value) (field : String) : Except Fault Value :=
  match parent with
  | .null => .ok .null
  | _ => parent.identity field

-- The description may depend on the mode and on the parent entity, and may be refused.
structure TablePlan where
  name : String := "Source"
  tableId : String := "people"
  table : TableMode → Value → Except Fault TableDef := fun _ _ => .ok {}
  columns : TableMode → Value → Except Fault (List ColumnDef) := fun _ _ => .ok []
  actions : TableMode → Value → Except Fault (List Action) := fun _ _ => .ok []
  filters : Except Fault (List FilterDef) := .ok []
  statics : Value → Except Fault Fields := fun _ => .ok []
  requiresParent : Bool := false
  parentIdField : String := "id"
  messages : Messages := defaultMessages

namespace TablePlan

def quoted (p : TablePlan) : String := p.name ++ "(" ++ Text.quoted p.tableId ++ ")"

def message (p : TablePlan) (name : String) : Except Fault TextPair :=
  match Entries.get? name defaultMessages with
  | some pair => .ok ((Entries.get? name p.messages).getD pair)
  | none => .error (.unknownMessage name)

def parentId (p : TablePlan) (parent : Value) : Except Fault Value :=
  parent.parentIdentity p.parentIdField

def describe (p : TablePlan) (mode : TableMode) (parent : Value) (filters : List FilterDef) :
    Except Fault TableDescriptor := do
  let table ← p.table mode parent
  let columns ← p.columns mode parent
  let actions ← p.actions mode parent
  return { mode, table, columns, actions := actions.map Action.descriptor, filters }

end TablePlan

-- A table whose description is written down, with variants for read-only mode. Its parent's
-- identity may be one of its fixed restrictions.
structure TableSheet where
  tableId : String := "people"
  table : Option (Except Fault TableDef) := none
  columns : Option (Except Fault (List ColumnDef)) := none
  actions : Option (Except Fault (List Action)) := none
  filters : Option (Except Fault (List FilterDef)) := none
  tableReadOnly : Option (Except Fault TableDef) := none
  columnsReadOnly : Option (Except Fault (List ColumnDef)) := none
  actionsReadOnly : Option (Except Fault (List Action)) := none
  requiresParent : Bool := false
  parentIdField : String := "id"
  messages : Messages := []
  statics : Fields := []
  parentStatic : Option String := none

namespace TableSheet

-- What stands for a mode; the read-only variant counts only beside the plain one.
def pick {α : Type} (plain readOnly : Option (Except Fault α)) (missing : α) (mode : TableMode) :
    Except Fault α :=
  match plain, readOnly, mode with
  | none, _, _ => .ok missing
  | some _, some v, .readOnly => v
  | some v, _, _ => v

def plan (s : TableSheet) : TablePlan where
  tableId := s.tableId
  table mode _ :=
    (pick s.table s.tableReadOnly {} mode).map fun d => { d with id := s.tableId }
  columns mode _ := pick s.columns s.columnsReadOnly [] mode
  actions mode _ := pick s.actions s.actionsReadOnly [] mode
  filters := s.filters.getD (.ok [])
  statics parent :=
    match s.parentStatic with
    | none => .ok s.statics
    | some name =>
      (parent.parentIdentity s.parentIdField).map fun id => Entries.put name id s.statics
  requiresParent := s.requiresParent
  parentIdField := s.parentIdField
  messages := s.messages

end TableSheet

end PagedTable
