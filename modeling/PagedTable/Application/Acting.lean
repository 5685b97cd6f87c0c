import PagedTable.Application.Mutating

namespace PagedTable.Application

variable (run : Run)

def selectExactlyOne : Failure :=
  .validation "Select exactly one record" "general.select_one_record"

def noneSelected : Failure :=
  .validation "No record selected" "general.select_at_least_one_record"

-- The row an edit works on: the one it was triggered on, else the only selected one.
def targetRow (key : Nat) (ctx : ActionContext) : Act Application Value :=
  match ctx.row, ctx.selection with
  | .null, [id] => onView key fun v => v.rowById id
  | row, _ => return row

def updateFlag : String := "can_update"

-- What a dialog is opened with; nothing when it is not to be opened at all.
def dialogParams (key : Nat) (purpose : Purpose) (plan : DialogPlan) (ctx : ActionContext) :
    Act Application (Option DialogParams) :=
  match purpose with
  | .edit => do
    let row ← targetRow key ctx
    if row.isNull then
      let _ ← report (.failure selectExactlyOne) none none
      return none
    else
      let mode : DialogMode := if row.flag updateFlag then .edit else .view
      let params ← Act.result (plan.params mode row ctx)
      return some params
  | _ => do
    let params ← Act.result (plan.params (ActionForm.dialogMode purpose) .null ctx)
    return some params

def requireMediator : Act Application Unit := do
  if !(← get).workspace.hasDialogs then throw Fault.noMediator

def overrideKey (table action : String) : String := "dialog." ++ table ++ "." ++ action

def componentOf (w : Application) (key : Nat) (a : Action) (plan : DialogPlan) : Value :=
  w.workspace.override (overrideKey (w.view key).plan.tableId a.id.text) plan.component

def openDialog (key : Nat) (a : Action) (purpose : Purpose) (plan : DialogPlan)
    (ctx : ActionContext) : Act Application Unit := do
  match ← dialogParams key purpose plan ctx with
  | none => pure ()
  | some params =>
    let component := (← get).componentOf key a plan
    requireMediator
    Act.change (record (.dialog key component params plan.size))
    Act.change fun w =>
      { w with dialogs := w.dialogs ++ [{ key, context := ctx, purpose, params }] }

def ask (key : Nat) (title message : TextPair) (intent : Intent) (ctx : ActionContext) :
    Act Application Unit := do
  requireMediator
  let w ← get
  let titleText ← Act.result (w.workspace.pairWording title [])
  let messageText ← Act.result (w.workspace.pairWording message [])
  Act.change (record (.question key titleText messageText))
  Act.change fun w => { w with questions := w.questions ++ [{ key, context := ctx, intent }] }

def askForSelection (key : Nat) (title message : TextPair) (intent : List Value → Intent)
    (ctx : ActionContext) : Act Application Unit := do
  if ctx.selection.isEmpty then
    let _ ← report (.failure noneSelected) none (some selectOne)
  else
    let ids ← onView key fun v => v.orderIds ctx.selection
    ask key title message (intent ids) ctx

def exportNow (key : Nat) : Act Application Unit := do
  if !(← get).workspace.hasExporter then throw Fault.noExporter
  let v := (← get).view key
  let q ← Act.result v.query
  Act.change (record (.exported key v.plan.tableId q v.filters.snapshot))

def handlerFault : Fault := .trouble (.run "handler failed")

def runHandler (a : Action) (h : Handler) (ctx : ActionContext) : Act Application Unit := do
  Act.change (record (.handled a.id.text ctx.selection ctx.row))
  if h = .fail then throw handlerFault

def perform (key : Nat) (a : Action) (ctx : ActionContext) : Act Application Unit :=
  match a.form with
  | .bare => throw (.notImplemented "")
  | .dialog purpose plan => openDialog key a purpose plan ctx
  | .removal title message => askForSelection key title message .remove ctx
  | .unassignment title message => askForSelection key title message .unassign ctx
  | .exporting none _ => exportNow key
  | .exporting (some title) message => ask key title message .exporting ctx
  | .custom none => throw (.notImplemented (a.quoted ++ " has no handler"))
  | .custom (some h) => runHandler a h ctx
  | .refresh => refresh run key
  | .resetFilters => do
    let _ ← onView key fun v => v.resetFilters
    refresh run key

-- Runs an action of the catalogue, if there is one that is shown and can be triggered now.
def trigger (key : Nat) (action : String) (row : Value) : Act Application Bool := do
  let (_, d) ← onView key TableView.describe
  let ctx := ((← get).view key).context key row
  match d.action? action with
  | none => return false
  | some a =>
    if !a.isEnabled ctx then return false
    else
      match a.action with
      | none => return false
      | some action =>
        perform run key action ctx
        return true

def applyResult (d : OpenDialog) (result : Value) : Act Application Unit :=
  match d.purpose with
  | .bare => throw (.notImplemented "")
  | .create => createRow run d.key result .nothing
  | .edit =>
    match d.params.mode with
    | .view => pure ()
    | _ => updateRow run d.key result .nothing
  | .assign idField => do
    let ids ← Act.result (result.chosenIds idField)
    if ids.isEmpty then pure () else assignRows run d.key ids .clearQuietly

-- A dialog was closed with a result. Backing out, or no result at all, changes nothing.
def dialogClosed (d : OpenDialog) (result : Value) : Act Application Unit :=
  if result.isCancelled then pure ()
  else
    match result with
    | .bool _ => pure ()
    | _ => applyResult run d result

-- A question was answered; all but a yes changes nothing.
def answered (q : OpenQuestion) (answer : Value) : Act Application Unit :=
  if answer.same (.text Button.yes.text) then
    match q.intent with
    | .remove ids => removeRows run q.key ids .clearQuietly
    | .unassign ids => unassignRows run q.key ids .clearQuietly
    | .exporting => exportNow q.key
  else pure ()

end PagedTable.Application
