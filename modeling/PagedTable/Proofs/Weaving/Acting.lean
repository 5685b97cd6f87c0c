import PagedTable.Proofs.Weaving.Mutating

namespace PagedTable.Application
open Strand

variable {run : Run} {key : Nat}

theorem targetRow_keeps (ctx : ActionContext) : Keeps (targetRow key ctx) := by
  unfold targetRow
  split
  · exact keeps_onView fun v => .described (v.rowById_described _)
  · exact keeps_pure _

theorem dialogParams_keeps (purpose : Purpose) (plan : DialogPlan) (ctx : ActionContext) :
    Keeps (dialogParams key purpose plan ctx) := by
  unfold dialogParams
  split
  · refine keeps_bind (targetRow_keeps ctx) fun row => ?_
    split
    · exact keeps_bind (report_keeps _ _ _) fun _ => keeps_pure none
    · exact keeps_bind (keeps_result _) fun params => keeps_pure (some params)
  · exact keeps_bind (keeps_result _) fun params => keeps_pure (some params)

theorem requireMediator_keeps : Keeps requireMediator := by
  refine keeps_bind keeps_get fun w => ?_
  split
  · exact keeps_throw _
  · exact keeps_pure ()

theorem openDialog_keeps (a : Action) (purpose : Purpose) (plan : DialogPlan) (ctx : ActionContext) :
    Keeps (openDialog key a purpose plan ctx) := by
  refine keeps_bind (dialogParams_keeps purpose plan ctx) fun params => ?_
  cases params with
  | none => exact keeps_pure ()
  | some params =>
    refine keeps_bind keeps_get fun w => ?_
    refine keeps_bind requireMediator_keeps fun _ => ?_
    refine keeps_bind (keeps_change fun w => quiet_weaves rfl rfl trivial) fun _ => ?_
    exact keeps_change fun w => Weaves.idle (fun _ _ => rfl)
      { Grows.refl w with dialogs := List.prefix_append _ _ }

theorem ask_keeps (title message : TextPair) (intent : Intent) (ctx : ActionContext) :
    Keeps (ask key title message intent ctx) := by
  refine keeps_bind requireMediator_keeps fun _ => ?_
  refine keeps_bind keeps_get fun w => ?_
  refine keeps_bind (keeps_result _) fun titleText => ?_
  refine keeps_bind (keeps_result _) fun messageText => ?_
  refine keeps_bind (keeps_change fun w => quiet_weaves rfl rfl trivial) fun _ => ?_
  exact keeps_change fun w => Weaves.idle (fun _ _ => rfl)
    { Grows.refl w with questions := List.prefix_append _ _ }

theorem askForSelection_keeps (title message : TextPair) (intent : List Value → Intent)
    (ctx : ActionContext) : Keeps (askForSelection key title message intent ctx) := by
  unfold askForSelection
  split
  · exact keeps_bind (report_keeps _ _ _) fun _ => keeps_pure ()
  · refine keeps_bind (keeps_onView fun v => .described (v.orderIds_described _)) fun ids => ?_
    exact ask_keeps title message (intent ids) ctx

theorem exportNow_keeps : Keeps (exportNow key) := by
  refine keeps_bind keeps_get fun w => ?_
  have exporting : Keeps (do
      let v := (← get).view key
      let q ← Act.result v.query
      Act.change (record (.exported key v.plan.tableId q v.filters.snapshot)) :
        Act Application Unit) := by
    refine keeps_get_bind fun w => ?_
    rw [Act.after_result_bind]
    cases built : (w.view key).query with
    | error e => exact .refl w
    | ok q => exact quiet_weaves rfl rfl built
  split
  · exact keeps_bind (keeps_throw _) fun _ => exporting
  · exact exporting

theorem runHandler_keeps (a : Action) (h : Handler) (ctx : ActionContext) :
    Keeps (runHandler a h ctx) := by
  refine keeps_bind (keeps_change fun w => (record_alike rfl rfl).weaves) fun _ => ?_
  split
  · exact keeps_throw _
  · exact keeps_pure ()

section

variable (scripts : Scripts run)

include scripts

theorem perform_keeps (a : Action) (ctx : ActionContext) : Keeps (perform run key a ctx) := by
  unfold perform
  split
  · exact keeps_throw _
  · exact openDialog_keeps a _ _ ctx
  · exact askForSelection_keeps _ _ _ ctx
  · exact askForSelection_keeps _ _ _ ctx
  · exact exportNow_keeps
  · exact ask_keeps _ _ _ ctx
  · exact keeps_throw _
  · exact runHandler_keeps a _ ctx
  · exact refresh_keeps scripts
  · exact keeps_bind (keeps_onView fun v => .reset) fun _ => refresh_keeps scripts

theorem trigger_keeps (action : String) (row : Value) : Keeps (trigger run key action row) := by
  refine keeps_bind (keeps_onView fun v => .described v.describe_described) fun d => ?_
  refine keeps_bind keeps_get fun w => ?_
  dsimp only
  split
  · exact keeps_pure false
  · split
    · exact keeps_pure false
    · split
      · exact keeps_pure false
      · exact keeps_bind (perform_keeps scripts _ _) fun _ => keeps_pure true

theorem applyResult_keeps (d : OpenDialog) (result : Value) : Keeps (applyResult run d result) := by
  unfold applyResult
  split
  · exact keeps_throw _
  · exact mutate_keeps scripts .create (.create result) .nothing rfl
  · split
    · exact keeps_pure ()
    · exact mutate_keeps scripts .update (.update result) .nothing rfl
  · refine keeps_bind (keeps_result _) fun ids => ?_
    split
    · exact keeps_pure ()
    · exact assignRows_keeps scripts ids .clearQuietly

theorem dialogClosed_keeps (d : OpenDialog) (result : Value) : Keeps (dialogClosed run d result) := by
  unfold dialogClosed
  split
  · exact keeps_pure ()
  · split
    · exact keeps_pure ()
    · exact applyResult_keeps scripts d result

theorem answered_keeps (q : OpenQuestion) (answer : Value) : Keeps (answered run q answer) := by
  unfold answered
  split
  · split
    · exact removeRows_keeps scripts _ .clearQuietly
    · exact unassignRows_keeps scripts _ .clearQuietly
    · exact exportNow_keeps
  · exact keeps_pure ()

end

end PagedTable.Application
