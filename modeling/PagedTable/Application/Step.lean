import PagedTable.Script
import PagedTable.Page
import PagedTable.Hooks
import PagedTable.Action.Basic
import PagedTable.Table.Plan

namespace PagedTable

inductive WorkspaceStep where
  | wording (key text : String) (args : Fields)
  | ownerWording (key text : String) (args : Fields)
  | pairWording (pair : TextPair) (args : Fields)
  | setWording (key text : String)
  | showError (message title : String)
  | showMessage (message : String)
  | handleFailure (fault : Fault) (key text : Option String) (args : Fields)
  | pageSizeOf (table : Option String)
  | setPageSizeVariable (value : Option String)
  | setSetting (key : String) (value : Value)
  | setting (key : String) (missing : Value)
  | override (key : String) (missing : Value) (strict : Bool)
  | setOverride (key : String) (value : Value) (strict : Bool)
  | setUpLogging
  | plugin (hook : String) (plugin : Hook → Plugin)
  | unregister (name : String)
  | callHook (hook : String)

inductive SignalName where
  | busyChanged
  | pageLoaded
  | selectionChanged
  | requestIssued
  | requestCompleted
  | requestError
  | modeChanged
deriving DecidableEq

namespace SignalName

def text : SignalName → String
  | .busyChanged => "busyChanged"
  | .pageLoaded => "pageLoaded"
  | .selectionChanged => "selectionChanged"
  | .requestIssued => "requestIssued"
  | .requestCompleted => "requestCompleted"
  | .requestError => "requestError"
  | .modeChanged => "modeChanged"

def all : List SignalName := [.busyChanged, .pageLoaded, .selectionChanged, .requestIssued,
  .requestCompleted, .requestError, .modeChanged]

def ofText? (s : String) : Option SignalName := all.find? fun n => n.text = s

end SignalName

-- How a provider answers an operation at once: what it delivers, and the trouble it then raises.
structure ProviderMode where
  deliveries : List Delivery := []
  raises : Option Fault := none

abbrev ProviderModes := List (ProviderOperation × ProviderMode)

mutual

-- What follows the success of a mutation. An action does nothing more, or clears the selection; any other
-- who asked is told of the result, may clear the selection, runs its steps, and may then fail.
inductive Sequel where
  | nothing
  | clearQuietly
  | script (clears : Bool) (steps : List Step) (fails : Bool)

inductive TableStep where
  | reload (keep : Option Bool)
  | refresh
  | setFilter (id : String) (value : Value)
  | setSearch (text : Value)
  | resetFilters
  | setSort (column : Option String) (direction : Value)
  | setPage (index : Number)
  | setPageSize (size : Number) (remember : Bool)
  | setMode (mode : Value)
  | setParent (entity : Value)
  | setParentFlag (name : String) (value : Value)
  | parentId
  | select (ids : List Value)
  | clearSelection
  | selectedRows
  | orderIds (ids : List Value)
  | rowId (row : Value)
  | rowById (id : Value)
  | create (entity : Value) (sequel : Sequel)
  | update (entity : Value) (sequel : Sequel)
  | remove (ids : List Value) (sequel : Sequel)
  | assign (ids : List Value) (sequel : Sequel)
  | unassign (ids : List Value) (sequel : Sequel)
  | trigger (action : String) (row : Value)
  | triggerRow (action : String) (index : Int)
  | message (name : String)
  | descriptor
  | actions (row : Value)
  | query
  | exportSnapshot
  | close

-- Whoever holds a request may subscribe to it and look at it. To discard, resolve or fail it is left to the
-- table that waits for it: these are no operations of a table, but steps of a `RequestSession`.
inductive Step where
  | workspace (step : WorkspaceStep)
  | table (key : Nat) (step : TableStep)
  | subscribe (request : Int) (callback : Option (Callback Step))
  | request (request : Int)
  | on (key : Nat) (signal : SignalName) (steps : List Step)
  | complete (call : Int) (delivery : Delivery)
  | provider (modes : ProviderModes)
  | closeDialog (dialog : Int) (result : Value)
  | answer (question : Int) (answer : Value)

end

def Sequel.record : Sequel := .script false [] false

def WorkspaceStep.name : WorkspaceStep → String
  | .wording .. => "t"
  | .ownerWording .. => "owner_t"
  | .pairWording .. => "t_pair"
  | .setWording .. => "translate"
  | .showError .. => "show_error"
  | .showMessage _ => "show_message"
  | .handleFailure .. => "handle_failure"
  | .pageSizeOf _ => "default_page_size"
  | .setPageSizeVariable _ => "env_page_size"
  | .setSetting .. => "set_setting"
  | .setting .. => "get_setting"
  | .override .. => "get_ovr"
  | .setOverride .. => "set_ovr"
  | .setUpLogging => "setup_logging"
  | .plugin .. => "plugin"
  | .unregister _ => "unregister"
  | .callHook _ => "hook"

def TableStep.name : TableStep → String
  | .reload _ => "reload"
  | .refresh => "refresh"
  | .setFilter .. => "set_filter"
  | .setSearch _ => "set_search"
  | .resetFilters => "reset_filters"
  | .setSort .. => "set_sort"
  | .setPage _ => "set_page"
  | .setPageSize .. => "set_page_size"
  | .setMode _ => "set_mode"
  | .setParent _ => "set_parent"
  | .setParentFlag .. => "set_parent_flag"
  | .parentId => "parent_id"
  | .select _ => "select"
  | .clearSelection => "clear_selection"
  | .selectedRows => "selected_rows"
  | .orderIds _ => "order_ids"
  | .rowId _ => "row_id"
  | .rowById _ => "row_by_id"
  | .create .. => "create"
  | .update .. => "update"
  | .remove .. => "remove"
  | .assign .. => "assign"
  | .unassign .. => "unassign"
  | .trigger .. => "trigger"
  | .triggerRow .. => "trigger"
  | .message _ => "message"
  | .descriptor => "descriptor"
  | .actions _ => "actions"
  | .query => "query"
  | .exportSnapshot => "export_snapshot"
  | .close => "close"

namespace Step

def name : Step → String
  | .workspace step => step.name
  | .table _ step => step.name
  | .subscribe .. => "subscribe"
  | .request _ => "request"
  | .on .. => "on"
  | .complete .. => "complete"
  | .provider _ => "provider"
  | .closeDialog .. => "close_dialog"
  | .answer .. => "answer"

end Step

mutual

def Step.size : Step → Nat
  | .table _ step => 1 + step.innerSize
  | .subscribe _ (some ⟨_, steps, _⟩) => 1 + Step.sizes steps
  | .on _ _ steps => 1 + Step.sizes steps
  | _ => 1

def Step.sizes : List Step → Nat
  | [] => 0
  | s :: rest => s.size + Step.sizes rest

def TableStep.innerSize : TableStep → Nat
  | .create _ sequel | .update _ sequel | .remove _ sequel | .assign _ sequel | .unassign _ sequel =>
    sequel.size
  | _ => 0

def Sequel.size : Sequel → Nat
  | .script _ steps _ => Step.sizes steps
  | _ => 0

end

end PagedTable
