import PagedTable.Application.Acting
import PagedTable.Logging

namespace PagedTable.Application

variable (run : Run)

def flagOf (ok : Bool) : Answer := .truth ok

def workspace? (f : Workspace → Except Fault Workspace) : Act Application Answer :=
  Act.update fun w =>
    match f w.workspace with
    | .ok workspace => ({ w with workspace }, .ok .nothing)
    | .error e => (w, .error e)

def setWorkspace (f : Workspace → Workspace) : Act Application Answer :=
  workspace? fun w => .ok (f w)

def worded (f : Workspace → Except Fault String) : Act Application Answer := do
  let text ← Act.result (f (← get).workspace)
  return .value (.text text)

def announce (f : Workspace → List Notice) : Act Application Answer := do
  Act.change fun w => w.notices (f w.workspace)
  return .nothing

def probe : Failure := .transport "probe"

def probeDetail : Hook → HookDetail
  | .transportFailure => .failure probe
  | .contextCreated | .sourceCreated => .nothing

def performWorkspace : WorkspaceStep → Act Application Answer
  | .wording key text args | .ownerWording key text args =>
    worded fun w => w.wording key text args
  | .pairWording pair args => worded fun w => w.pairWording pair args
  | .setWording key text =>
    setWorkspace fun w => { w with wordings := Entries.put key text w.wordings }
  | .showError message title => announce fun w => w.showError message title
  | .showMessage message => announce fun w => w.showMessage message
  | .handleFailure fault key text args => do
    let f ← Act.update fun w =>
      let r := w.workspace.handleFailure fault key text args
      (w.notices r.1, r.2)
    return .reported fault.isFailure f
  | .pageSizeOf table => return .value (.int ((← get).workspace.pageSizeOf table))
  | .setPageSizeVariable value => setWorkspace fun w => { w with pageSizeVariable := value }
  | .setSetting key value => setWorkspace fun w => w.setSetting key value
  | .setting key missing => return .value ((← get).workspace.setting key missing)
  | .override key missing strict =>
    if strict then do
      let v ← Act.result ((← get).workspace.requireOverride key)
      return .value v
    else return .value ((← get).workspace.override key missing)
  | .setOverride key value strict =>
    if strict then workspace? fun w => w.addOverride key value
    else setWorkspace fun w => w.setOverride key value
  | .setUpLogging =>
    Act.update fun w =>
      let r := w.workspace.setUpLogging
      ({ w with workspace := r.1 }, .ok (.values [r.2]))
  | .plugin hook plugin => do
    let _ ← workspace? fun w =>
      (w.plugins.register hook plugin).map fun plugins => { w with plugins }
    return flagOf true
  | .unregister name => do
    if !(← get).workspace.plugins.isRegistered name then throw .unexpected
    let _ ← setWorkspace fun w => { w with plugins := w.plugins.unregister name }
    return flagOf ((← get).workspace.plugins.isRegistered name)
  | .callHook hook =>
    match Hook.ofName? hook with
    | none => return .hooks {}
    | some h => do
      let _ ← announce fun w => w.callHook h (probeDetail h)
      return .hooks ((← get).workspace.plugins.results h)

def changed (key : Nat) (f : TableView → TableView × Except Fault Bool) : Act Application Answer := do
  let r ← onView key f
  return flagOf r

-- Changes the page size, and remembers it for the table where that is asked for.
def setPageSize (key : Nat) (size : Number) (remember : Bool) : Act Application Answer := do
  let r ← onView key fun v => v.setPageSize size
  let tableId := ((← get).view key).plan.tableId
  if r && remember && tableId ≠ "" then
    let _ ← setWorkspace fun w =>
      w.setSetting (Settings.tableKey (some tableId) Settings.pageSizeName) (.number size)
  return flagOf r

-- Switches the mode. A selection does not survive where rows cannot be selected.
def setMode (key : Nat) (mode : Value) : Act Application Answer := do
  let mode ← Act.result (TableMode.read mode)
  if mode = ((← get).view key).mode then return flagOf false
  else
    Act.change (sight key (.turning mode))
    Act.change (modifyView key fun v => { v with mode })
    let (_, d) ← onView key TableView.describe
    if !d.table.rowSelection.enabled then Act.change (clearSelection run key)
    Act.change (emit run key (.modeChanged mode))
    return flagOf true

-- Binds a table to a parent. Its rows stay until the next page, but what was asked for under the
-- previous parent no longer counts.
def setParent (key : Nat) (entity : Value) (w : Application) : Application :=
  let w := w.modifyView key fun v => { v with parent := entity }.forget.toFirstPage
  let w := clearSelection run key (w.record (.mark key .parentBound))
  updateBusy run key ((host run key).discardAll (w.record (.mark key .parentSettled)))

def withFlag (name : String) (value : Value) (entity : Value) : Except Fault Value :=
  match entity with
  | .map fields => .ok (.map (Entries.put name value fields))
  | .object .plain fields => .ok (.object .plain (Entries.put name value fields))
  | .object .site fields =>
    if Entries.has name fields then .ok (.object .site (Entries.put name value fields))
    else .error .noAttribute
  | _ => .error .noAttribute

def setParentFlag (key : Nat) (name : String) (value : Value) : Act Application Answer := do
  let parent ← Act.result (withFlag name value ((← get).view key).parent)
  Act.change (modifyView key fun v => { v with parent })
  return .nothing

def select (key : Nat) (ids : List Value) : Act Application Answer := do
  match ← onView key fun v => v.selection ids with
  | none => pure ()
  | some selected => Act.change (setSelection run key selected)
  return .ids ((← get).view key).selected

def summaryOf (w : Application) (key r : Nat) : Answer :=
  match (w.table key).book.request? r with
  | some q => .summary q.summary
  | none => .nothing

def nameRequest (key r : Nat) (w : Application) : Application :=
  { w with requests := w.requests ++ [(key, r)] }

def numberedRequest (key : Nat) (keep : Option Bool) : Act Application Nat := do
  let r ← newRequest key keep
  Act.change (nameRequest key r)
  return r

def finished (a : Act Application Unit) : Act Application Answer := do
  a
  return .nothing

def showDescriptor (key : Nat) : Act Application Answer := do
  let (made, d) ← onView key TableView.describe
  let unchanged := (← get).shown = some (key, made)
  Act.change fun w => { w with shown := some (key, made) }
  return .descriptor unchanged d

def listActions (key : Nat) (row : Value) : Act Application Answer := do
  let (_, d) ← onView key TableView.describe
  let ctx := ((← get).view key).context key row
  return .actions ((d.visibleActions ctx).map ActionDescriptor.id)
    ((d.enabledActions ctx).map ActionDescriptor.id)

def performTable (key : Nat) : TableStep → Act Application Answer
  | .reload keep => do
    let index := (← get).requests.length
    let _ ← numberedRequest key keep
    return .index index
  | .refresh => do
    let r ← numberedRequest key none
    subscribe run key r none
    return (← get).summaryOf key r
  | .setFilter id value => changed key fun v => v.setFilter id value
  | .setSearch text => changed key fun v => v.setSearch text
  | .resetFilters => changed key TableView.resetFilters
  | .setSort column direction => changed key fun v => v.setSort column direction
  | .setPage index => changed key fun v => v.setPage index
  | .setPageSize size remember => setPageSize key size remember
  | .setMode mode => setMode run key mode
  | .setParent entity => finished (Act.change (setParent run key entity))
  | .setParentFlag name value => setParentFlag key name value
  | .parentId => do
    let id ← Act.result ((← get).view key).parentId
    return .value id
  | .select ids => select run key ids
  | .clearSelection => finished (Act.change (clearSelection run key))
  | .selectedRows => do
    let rows ← onView key TableView.selectedRows
    return .values rows
  | .orderIds ids => do
    let ordered ← onView key fun v => v.orderIds ids
    return .values ordered
  | .rowId row => do
    let id ← onView key fun v => v.rowId row
    return .value id
  | .rowById id => do
    let row ← onView key fun v => v.rowById id
    return .value row
  | .create entity sequel => finished (createRow run key entity sequel)
  | .update entity sequel => finished (updateRow run key entity sequel)
  | .remove ids sequel => finished (removeRows run key ids sequel)
  | .assign ids sequel => finished (assignRows run key ids sequel)
  | .unassign ids sequel => finished (unassignRows run key ids sequel)
  | .trigger action row => do
    let r ← trigger run key action row
    return flagOf r
  | .triggerRow action index => do
    let rows := ((← get).view key).rows
    let i ← Act.result (position rows.length index)
    let r ← trigger run key action (rows[i]?.getD .null)
    return flagOf r
  | .message name => do
    let pair ← Act.result (((← get).view key).plan.message name)
    return .pair pair
  | .descriptor => showDescriptor key
  | .actions row => listActions key row
  | .query => do
    let q ← Act.result ((← get).view key).query
    let params ← Act.result q.httpParams
    return .query q params
  | .exportSnapshot => do
    let v := (← get).view key
    let q ← Act.result v.query
    return .snapshot v.plan.tableId q v.filters.snapshot
  | .close => finished (Act.change (close run key))

def completeCall (c : OpenCall) (o : Outcome) : Act Application Unit :=
  match c.purpose with
  | .page token keep => pageLoaded run c.key token keep o
  | .mutation m => mutationDone run m o

def numbered {α : Type} (items : List α) (i : Int) : Except Fault α :=
  match position items.length i with
  | .error e => .error e
  | .ok n =>
    match items[n]? with
    | some x => .ok x
    | none => .error (.absent (positionText i))

def step : Step → Act Application Answer
  | .workspace s => performWorkspace s
  | .table key s => performTable run key s
  | .subscribe request callback => do
    let (key, r) ← Act.result (numbered (← get).requests request)
    subscribe run key r callback
    return .itself
  | .request request => do
    let (key, r) ← Act.result (numbered (← get).requests request)
    return (← get).summaryOf key r
  | .on key signal steps => do
    Act.change fun w => { w with slots := w.slots ++ [{ key, signal, steps }] }
    return .nothing
  | .complete call delivery => do
    let c ← Act.result (numbered (← get).calls call)
    let o ← Act.result delivery.outcome
    finished (completeCall run c o)
  | .provider modes => do
    Act.change fun w => { w with modes }
    return .nothing
  | .closeDialog dialog result => do
    let d ← Act.result (numbered (← get).dialogs dialog)
    finished (dialogClosed run d result)
  | .answer question answer => do
    let q ← Act.result (numbered (← get).questions question)
    finished (answered run q answer)

-- One step with the scripts it reaches, to the given depth of scripts inside scripts.
def runTo : Nat → Run
  | 0 => fun _ => return .nothing
  | depth + 1 => step (runTo depth)

structure Opening where
  plan : TablePlan
  mode : Value := .text "RW"
  parent : Value := .null
  pageSize : Option Number := none
  keepSelection : Bool := true

def startingPaging (w : Workspace) (o : Opening) : Except Fault Paging :=
  let own := match o.pageSize with
    | some n => if n.isZero then none else some n
    | none => none
  Paging.make 0 (own.getD (.int (w.pageSizeOf (some o.plan.tableId))))

-- The filters of a plan, with the search where the table can be searched.
def startingFilters (plan : TablePlan) (mode : TableMode) (parent : Value) :
    Except Fault FilterState := do
  let defs ← plan.filters
  let filters ← FilterState.ofDefs defs
  let table ← plan.table mode parent
  if table.searchEnabled && !Entries.has searchFilterId filters.defs then
    match filters.addDef searchFilter with
    | (filters, .ok ()) => return filters
    | (_, .error e) => throw e
  else return filters

def startingView (w : Workspace) (o : Opening) : Except Fault TableView := do
  let mode ← TableMode.read o.mode
  let paging ← startingPaging w o
  let filters ← startingFilters o.plan mode o.parent
  let v : TableView := { plan := o.plan, mode, parent := o.parent, filters, paging }
  match v.describe with
  | (_, .error e) => throw e
  | (v, .ok (_, d)) =>
    match d.defaultSort? with
    | none => return v
    | some c =>
      let sorting ← Sorting.make (some c.id) c.direction
      return { v with sorting }

def openTable (key : Nat) (o : Opening) : Act Application Unit := do
  let w := (← get).workspace
  let v ← Act.result (startingView w o)
  Act.change (setTable key { view := v, keepSelection := o.keepSelection })
  Act.change (notices (w.callHook .sourceCreated (.source o.plan.quoted)))

end PagedTable.Application
