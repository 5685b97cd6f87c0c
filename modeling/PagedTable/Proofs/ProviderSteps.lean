import PagedTable.Proofs.ProviderModes

namespace PagedTable.Application

variable {run : Run} {key : Nat} {w w' : Application}

section Mutating

theorem showSuccess_indifferent (kind : MutationKind) : Indifferent (showSuccess key kind) := by
  refine indifferent_get (fun _ _ => rfl) fun w => ?_
  refine indifferent_bind (indifferent_result _) fun pair => ?_
  refine indifferent_bind (indifferent_result _) fun text => ?_
  exact indifferent_change fun softer => softer.notices _

theorem reportMutation_indifferent (kind : MutationKind) (fault : Fault) :
    Indifferent (reportMutation key kind fault) := by
  refine indifferent_get (fun _ _ => rfl) fun w => ?_
  refine indifferent_bind (indifferent_result _) fun pair => ?_
  exact indifferent_bind (indifferent_report _ _ _) fun _ => indifferent_pure _

theorem mutationDone_goes (m : Nat) (e : Fault) (w : Application) :
    ((mutationDone run m { error := some e }).outcome w).1 = .ok () := by
  cases found : w.mutation? m with
  | none =>
    unfold mutationDone
    rw [Act.outcome_get_bind, found]
    rfl
  | some x =>
    cases done : x.done with
    | true => rw [again_nothing found done]
    | false =>
      rw [first_outcome found done]
      split
      · rfl
      · obtain ⟨_, _, -, -, reported⟩ :=
          reportMutation_outcome x.key x.kind e (w.concluding run m x.key)
        exact congrArg Prod.fst reported

theorem checkIds_indifferent (kind : MutationKind) (ids : List Value) :
    Indifferent (checkIds kind ids) :=
  indifferent_if (indifferent_bind (indifferent_report _ _ _) fun _ => indifferent_pure false)
    (indifferent_pure true)

theorem checkParent_indifferent (kind : MutationKind) : Indifferent (checkParent key kind) := by
  refine indifferent_get (fun _ _ => rfl) fun w => ?_
  refine indifferent_bind (indifferent_result _) fun parent => ?_
  dsimp only
  exact indifferent_if (indifferent_bind (indifferent_report _ _ _) fun _ => indifferent_pure parent)
    (indifferent_pure parent)

variable (scripts : ∀ s, Indifferent (run s))

include scripts

theorem runSequel_indifferent (s : Sequel) (r : MutationResult) :
    Indifferent (runSequel run key s r) := by
  cases s with
  | nothing => exact indifferent_pure ()
  | clearQuietly => exact indifferent_change (clearSelection_softer scripts key)
  | script clears steps fails =>
    refine indifferent_bind (indifferent_change fun softer => softer.record _) fun _ => ?_
    refine indifferent_bind (indifferent_change fun softer => ?_) fun _ => ?_
    · split
      · exact clearSelection_softer scripts key softer
      · exact softer
    refine indifferent_bind (indifferent_change (follow_softer scripts steps)) fun _ => ?_
    exact indifferent_if (indifferent_throw _) (indifferent_pure ())

theorem mutationDone_indifferent (m : Nat) (o : Outcome) : Indifferent (mutationDone run m o) := by
  refine indifferent_get (fun _ _ => rfl) fun w => ?_
  split
  · exact indifferent_pure ()
  · rename_i x _
    have concluded : Indifferent (concludeMutation run x o) := by
      unfold concludeMutation
      split
      · exact reportMutation_indifferent _ _
      · refine indifferent_bind (showSuccess_indifferent _) fun _ => ?_
        exact indifferent_bind (runSequel_indifferent scripts _ _) fun _ => refresh_indifferent scripts
    refine indifferent_if (indifferent_pure ()) ?_
    refine indifferent_bind (indifferent_change fun softer => softer.sight x.key _) fun _ => ?_
    refine indifferent_bind (indifferent_change fun softer =>
      softer.blind (f := settleMutation m) fun _ _ => rfl) fun _ => ?_
    refine indifferent_bind (indifferent_change fun softer => softer.modifyTable x.key _) fun _ => ?_
    refine indifferent_get (fun _ _ => rfl) fun w => indifferent_if (indifferent_pure ()) ?_
    exact indifferent_bind (indifferent_change (updateBusy_softer scripts x.key)) fun _ => concluded

theorem mutate_indifferent (kind : MutationKind) (c : ProviderCall) (sequel : Sequel) :
    Indifferent (mutate run key kind c sequel) := by
  refine indifferent_get (fun _ _ => rfl) fun w => indifferent_if (indifferent_pure ()) ?_
  refine indifferent_get (fun _ _ => rfl) fun w => ?_
  refine indifferent_bind (indifferent_change fun softer => softer.sight key _) fun _ => ?_
  refine indifferent_bind (indifferent_change fun softer => softer.blind
    (f := fun w => { w with mutations := w.mutations ++ [{ key, kind, sequel }] })
    fun _ _ => rfl) fun _ => ?_
  refine indifferent_bind (indifferent_change fun softer => softer.modifyTable key _) fun _ => ?_
  refine indifferent_bind (indifferent_change (updateBusy_softer scripts key)) fun _ => ?_
  exact asking_indifferent (fun _ _ => rfl) (mutationDone_goes _)
    (fun o => mutationDone_indifferent scripts _ o)
    (fun e => mutationDone_indifferent scripts _ { error := some e })
    { key, purpose := .mutation w.mutations.length, call := c }

theorem removeRows_indifferent (ids : List Value) (sequel : Sequel) :
    Indifferent (removeRows run key ids sequel) := by
  refine indifferent_bind (checkIds_indifferent .remove ids) fun some => ?_
  exact indifferent_if (mutate_indifferent scripts .remove _ sequel) (indifferent_pure ())

theorem forParent_indifferent (kind : MutationKind) (call : Value → List Value → ProviderCall)
    (ids : List Value) (sequel : Sequel) : Indifferent (forParent run key kind call ids sequel) := by
  refine indifferent_bind (checkParent_indifferent kind) fun parent => ?_
  refine indifferent_if ?_ (indifferent_pure ())
  refine indifferent_bind (checkIds_indifferent kind ids) fun some => ?_
  exact indifferent_if (mutate_indifferent scripts kind _ sequel) (indifferent_pure ())

theorem assignRows_indifferent (ids : List Value) (sequel : Sequel) :
    Indifferent (assignRows run key ids sequel) := forParent_indifferent scripts .assign .assign ids sequel

theorem unassignRows_indifferent (ids : List Value) (sequel : Sequel) :
    Indifferent (unassignRows run key ids sequel) :=
  forParent_indifferent scripts .unassign .unassign ids sequel

end Mutating

section Acting

theorem targetRow_indifferent (ctx : ActionContext) : Indifferent (targetRow key ctx) := by
  unfold targetRow
  split
  · exact indifferent_onView key _
  · exact indifferent_pure _

theorem dialogParams_indifferent (purpose : Purpose) (plan : DialogPlan) (ctx : ActionContext) :
    Indifferent (dialogParams key purpose plan ctx) := by
  unfold dialogParams
  split
  · refine indifferent_bind (targetRow_indifferent ctx) fun row => ?_
    refine indifferent_if (indifferent_bind (indifferent_report _ _ _) fun _ => indifferent_pure none) ?_
    exact indifferent_bind (indifferent_result _) fun params => indifferent_pure (some params)
  · exact indifferent_bind (indifferent_result _) fun params => indifferent_pure (some params)

theorem requireMediator_indifferent : Indifferent requireMediator := by
  refine indifferent_get (fun _ _ => rfl) fun w => ?_
  exact indifferent_if (indifferent_throw _) (indifferent_pure ())

theorem openDialog_indifferent (a : Action) (purpose : Purpose) (plan : DialogPlan)
    (ctx : ActionContext) : Indifferent (openDialog key a purpose plan ctx) := by
  refine indifferent_bind (dialogParams_indifferent purpose plan ctx) fun params => ?_
  cases params with
  | none => exact indifferent_pure ()
  | some params =>
    refine indifferent_get (fun _ _ => rfl) fun w => ?_
    refine indifferent_bind requireMediator_indifferent fun _ => ?_
    refine indifferent_bind (indifferent_change fun softer => softer.record _) fun _ => ?_
    exact indifferent_change fun softer => softer.blind
      (f := fun w => { w with dialogs := w.dialogs ++ [{ key, context := ctx, purpose, params }] })
      fun _ _ => rfl

theorem ask_indifferent (title message : TextPair) (intent : Intent) (ctx : ActionContext) :
    Indifferent (ask key title message intent ctx) := by
  refine indifferent_bind requireMediator_indifferent fun _ => ?_
  refine indifferent_get (fun _ _ => rfl) fun w => ?_
  refine indifferent_bind (indifferent_result _) fun titleText => ?_
  refine indifferent_bind (indifferent_result _) fun messageText => ?_
  refine indifferent_bind (indifferent_change fun softer => softer.record _) fun _ => ?_
  exact indifferent_change fun softer => softer.blind
    (f := fun w => { w with questions := w.questions ++ [{ key, context := ctx, intent }] })
    fun _ _ => rfl

theorem askForSelection_indifferent (title message : TextPair) (intent : List Value → Intent)
    (ctx : ActionContext) : Indifferent (askForSelection key title message intent ctx) := by
  refine indifferent_if
    (indifferent_bind (indifferent_report _ _ _) fun _ => indifferent_pure ()) ?_
  refine indifferent_bind (indifferent_onView key _) fun ids => ?_
  exact ask_indifferent title message (intent ids) ctx

theorem exportNow_indifferent : Indifferent (exportNow key) := by
  have exporting : Indifferent (do
      let v := (← get).view key
      let q ← Act.result v.query
      Act.change (record (.exported key v.plan.tableId q v.filters.snapshot)) :
        Act Application Unit) := by
    refine indifferent_get (fun _ _ => rfl) fun w => ?_
    refine indifferent_bind (indifferent_result _) fun q => ?_
    exact indifferent_change fun softer => softer.record _
  refine indifferent_get (fun _ _ => rfl) fun w => ?_
  dsimp only
  split
  · exact indifferent_bind (indifferent_throw _) fun _ => exporting
  · exact exporting

theorem runHandler_indifferent (a : Action) (h : Handler) (ctx : ActionContext) :
    Indifferent (runHandler a h ctx) := by
  refine indifferent_bind (indifferent_change fun softer => softer.record _) fun _ => ?_
  exact indifferent_if (indifferent_throw _) (indifferent_pure ())

variable (scripts : ∀ s, Indifferent (run s))

include scripts

theorem perform_indifferent (a : Action) (ctx : ActionContext) : Indifferent (perform run key a ctx) := by
  unfold perform
  split
  · exact indifferent_throw _
  · exact openDialog_indifferent a _ _ ctx
  · exact askForSelection_indifferent _ _ _ ctx
  · exact askForSelection_indifferent _ _ _ ctx
  · exact exportNow_indifferent
  · exact ask_indifferent _ _ _ ctx
  · exact indifferent_throw _
  · exact runHandler_indifferent a _ ctx
  · exact refresh_indifferent scripts
  · exact indifferent_bind (indifferent_onView key _) fun _ => refresh_indifferent scripts

theorem trigger_indifferent (action : String) (row : Value) :
    Indifferent (trigger run key action row) := by
  refine indifferent_bind (indifferent_onView key _) fun d => ?_
  refine indifferent_get (fun _ _ => rfl) fun w => ?_
  dsimp only
  split
  · exact indifferent_pure false
  · refine indifferent_if (indifferent_pure false) ?_
    split
    · exact indifferent_pure false
    · exact indifferent_bind (perform_indifferent scripts _ _) fun _ => indifferent_pure true

theorem applyResult_indifferent (d : OpenDialog) (result : Value) :
    Indifferent (applyResult run d result) := by
  unfold applyResult
  split
  · exact indifferent_throw _
  · exact mutate_indifferent scripts .create _ .nothing
  · split
    · exact indifferent_pure ()
    · exact mutate_indifferent scripts .update _ .nothing
  · refine indifferent_bind (indifferent_result _) fun ids => ?_
    exact indifferent_if (indifferent_pure ()) (assignRows_indifferent scripts ids .clearQuietly)

theorem dialogClosed_indifferent (d : OpenDialog) (result : Value) :
    Indifferent (dialogClosed run d result) := by
  refine indifferent_if (indifferent_pure ()) ?_
  split
  · exact indifferent_pure ()
  · exact applyResult_indifferent scripts d result

theorem answered_indifferent (q : OpenQuestion) (answer : Value) :
    Indifferent (answered run q answer) := by
  refine indifferent_if ?_ (indifferent_pure ())
  split
  · exact removeRows_indifferent scripts _ .clearQuietly
  · exact unassignRows_indifferent scripts _ .clearQuietly
  · exact exportNow_indifferent

end Acting

section Workspaces

theorem workspace_indifferent (f : Workspace → Except Fault Workspace) :
    Indifferent (workspace? f) := by
  refine indifferent_update (fun w modes => ?_) fun {w w'} softer => ?_
  · cases f w.workspace <;> rfl
  · have shared : w'.workspace = w.workspace := softer.read fun _ _ => rfl
    rw [shared]
    split
    · rename_i workspace _
      exact softer.blind (f := fun w => { w with workspace }) fun _ _ => rfl
    · exact softer

theorem setWorkspace_indifferent (f : Workspace → Workspace) : Indifferent (setWorkspace f) :=
  workspace_indifferent _

theorem worded_indifferent (f : Workspace → Except Fault String) : Indifferent (worded f) := by
  refine indifferent_get (fun _ _ => rfl) fun w => ?_
  exact indifferent_bind (indifferent_result _) fun text => indifferent_pure _

theorem announce_indifferent (f : Workspace → List Notice) : Indifferent (announce f) := by
  refine indifferent_bind (indifferent_change fun {w w'} softer => ?_) fun _ => indifferent_pure _
  have shared : w'.workspace = w.workspace := softer.read fun _ _ => rfl
  rw [shared]
  exact softer.notices _

theorem answer_indifferent (f : Workspace → Answer) :
    Indifferent (do return f (← get).workspace : Act Application Answer) :=
  indifferent_get (fun _ _ => rfl) fun _ => indifferent_pure _

theorem performWorkspace_indifferent (s : WorkspaceStep) : Indifferent (performWorkspace s) := by
  cases s <;> dsimp only [performWorkspace]
  case wording phrase text args => exact worded_indifferent _
  case ownerWording phrase text args => exact worded_indifferent _
  case pairWording pair args => exact worded_indifferent _
  case setWording phrase text => exact setWorkspace_indifferent _
  case showError message title => exact announce_indifferent _
  case showMessage message => exact announce_indifferent _
  case handleFailure fault phrase text args =>
    refine indifferent_bind (indifferent_update (fun _ _ => rfl) fun {w w'} softer => ?_)
      fun f => indifferent_pure _
    have shared : w'.workspace = w.workspace := softer.read fun _ _ => rfl
    rw [shared]
    exact softer.notices _
  case pageSizeOf table => exact answer_indifferent fun w => .value (.int (w.pageSizeOf table))
  case setPageSizeVariable value => exact setWorkspace_indifferent _
  case setSetting name value => exact setWorkspace_indifferent _
  case setting name missing => exact answer_indifferent fun w => .value (w.setting name missing)
  case override name missing strict =>
    refine indifferent_if (indifferent_get (fun _ _ => rfl) fun w => ?_)
      (answer_indifferent fun w => .value (w.override name missing))
    exact indifferent_bind (indifferent_result _) fun v => indifferent_pure _
  case setOverride name value strict =>
    exact indifferent_if (workspace_indifferent _) (setWorkspace_indifferent _)
  case setUpLogging =>
    refine indifferent_update (fun _ _ => rfl) fun softer => ?_
    exact softer.blind (f := fun w => { w with workspace := w.workspace.setUpLogging.1 })
      fun _ _ => rfl
  case plugin hook plugin =>
    exact indifferent_bind (workspace_indifferent _) fun _ => indifferent_pure _
  case unregister name =>
    have leaving : Indifferent (do
        let _ ← setWorkspace fun w => { w with plugins := w.plugins.unregister name }
        return flagOf ((← get).workspace.plugins.isRegistered name)) :=
      indifferent_bind (setWorkspace_indifferent _) fun _ =>
        answer_indifferent fun w => flagOf (w.plugins.isRegistered name)
    refine indifferent_get (fun _ _ => rfl) fun w => ?_
    split
    · exact indifferent_bind (indifferent_throw _) fun _ => leaving
    · exact leaving
  case callHook hook =>
    split
    · exact indifferent_pure _
    · exact indifferent_bind (announce_indifferent _) fun _ =>
        answer_indifferent fun w => .hooks (w.plugins.results _)

end Workspaces

section Tables

theorem changed_indifferent (f : TableView → TableView × Except Fault Bool) :
    Indifferent (changed key f) :=
  indifferent_bind (indifferent_onView key f) fun _ => indifferent_pure _

theorem setPageSize_indifferent (size : Number) (remember : Bool) :
    Indifferent (setPageSize key size remember) := by
  refine indifferent_bind (indifferent_onView key _) fun r => ?_
  refine indifferent_get (fun _ _ => rfl) fun w => ?_
  dsimp only
  split
  · exact indifferent_bind (setWorkspace_indifferent _) fun _ => indifferent_pure _
  · exact indifferent_pure _

theorem setParentFlag_indifferent (name : String) (value : Value) :
    Indifferent (setParentFlag key name value) := by
  refine indifferent_get (fun _ _ => rfl) fun w => ?_
  refine indifferent_bind (indifferent_result _) fun parent => ?_
  refine indifferent_bind (indifferent_change fun softer => softer.modifyView key _) fun _ => ?_
  exact indifferent_pure _

theorem numberedRequest_indifferent (keep : Option Bool) : Indifferent (numberedRequest key keep) := by
  refine indifferent_bind (newRequest_indifferent keep) fun r => ?_
  refine indifferent_bind (indifferent_change fun softer => ?_) fun _ => indifferent_pure r
  exact softer.blind (f := nameRequest key r) fun _ _ => rfl

theorem finished_indifferent {a : Act Application Unit} (indifferent : Indifferent a) :
    Indifferent (finished a) := indifferent_bind indifferent fun _ => indifferent_pure _

theorem showDescriptor_indifferent : Indifferent (showDescriptor key) := by
  refine indifferent_bind (indifferent_onView key _) fun d => ?_
  refine indifferent_get (fun _ _ => rfl) fun w => ?_
  refine indifferent_bind (indifferent_change fun softer => ?_) fun _ => indifferent_pure _
  exact softer.blind (f := fun w => { w with shown := some (key, d.1) }) fun _ _ => rfl

theorem listActions_indifferent (row : Value) : Indifferent (listActions key row) := by
  refine indifferent_bind (indifferent_onView key _) fun d => ?_
  exact indifferent_get (fun _ _ => rfl) fun w => indifferent_pure _

variable (scripts : ∀ s, Indifferent (run s))

include scripts

theorem setMode_indifferent (mode : Value) : Indifferent (setMode run key mode) := by
  refine indifferent_bind (indifferent_result _) fun mode => ?_
  refine indifferent_get (fun _ _ => rfl) fun w => indifferent_if (indifferent_pure _) ?_
  refine indifferent_bind (indifferent_change fun softer => softer.sight key _) fun _ => ?_
  refine indifferent_bind (indifferent_change fun softer => softer.modifyView key _) fun _ => ?_
  refine indifferent_bind (indifferent_onView key _) fun d => ?_
  have announced : Indifferent (do
      Act.change (emit run key (.modeChanged mode))
      return flagOf true) :=
    indifferent_bind (indifferent_change (emit_softer scripts key _)) fun _ => indifferent_pure _
  dsimp only
  split
  · exact indifferent_bind (indifferent_change (clearSelection_softer scripts key)) fun _ => announced
  · exact announced

theorem setParent_softer (entity : Value) (softer : Softer w w') :
    Softer (setParent run key entity w) (setParent run key entity w') := by
  have moved := softer.modifyView key fun v => { v with parent := entity }.forget.toFirstPage
  have cleared := clearSelection_softer scripts key (moved.record (.mark key .parentBound))
  exact updateBusy_softer scripts key
    (discardAll_softer scripts key (cleared.record (.mark key .parentSettled)))

theorem select_indifferent (ids : List Value) : Indifferent (select run key ids) := by
  have answered : Indifferent (do return .ids ((← get).view key).selected : Act Application Answer) :=
    indifferent_get (fun _ _ => rfl) fun w => indifferent_pure _
  refine indifferent_bind (indifferent_onView key _) fun selected => ?_
  cases selected with
  | none => exact answered
  | some selected =>
    exact indifferent_bind (indifferent_change (setSelection_softer scripts selected)) fun _ => answered

theorem performTable_indifferent (s : TableStep) : Indifferent (performTable run key s) := by
  cases s with
  | reload keep =>
    refine indifferent_get (fun _ _ => rfl) fun w => ?_
    exact indifferent_bind (numberedRequest_indifferent keep) fun _ => indifferent_pure _
  | refresh =>
    refine indifferent_bind (numberedRequest_indifferent none) fun r => ?_
    refine indifferent_bind (subscribe_indifferent scripts r none) fun _ => ?_
    exact indifferent_get (fun _ _ => rfl) fun w => indifferent_pure _
  | setFilter id value => exact changed_indifferent _
  | setSearch text => exact changed_indifferent _
  | resetFilters => exact changed_indifferent _
  | setSort column direction => exact changed_indifferent _
  | setPage index => exact changed_indifferent _
  | setPageSize size remember => exact setPageSize_indifferent size remember
  | setMode mode => exact setMode_indifferent scripts mode
  | setParent entity =>
    exact finished_indifferent (indifferent_change (setParent_softer scripts entity))
  | setParentFlag name value => exact setParentFlag_indifferent name value
  | parentId =>
    refine indifferent_get (fun _ _ => rfl) fun w => ?_
    exact indifferent_bind (indifferent_result _) fun id => indifferent_pure _
  | select ids => exact select_indifferent scripts ids
  | clearSelection => exact finished_indifferent (indifferent_change (clearSelection_softer scripts key))
  | selectedRows | orderIds ids | rowId row | rowById id =>
    exact indifferent_bind (indifferent_onView key _) fun _ => indifferent_pure _
  | create entity sequel => exact finished_indifferent (mutate_indifferent scripts .create _ sequel)
  | update entity sequel => exact finished_indifferent (mutate_indifferent scripts .update _ sequel)
  | remove ids sequel => exact finished_indifferent (removeRows_indifferent scripts ids sequel)
  | assign ids sequel => exact finished_indifferent (assignRows_indifferent scripts ids sequel)
  | unassign ids sequel => exact finished_indifferent (unassignRows_indifferent scripts ids sequel)
  | trigger action row =>
    exact indifferent_bind (trigger_indifferent scripts action row) fun _ => indifferent_pure _
  | triggerRow action index =>
    refine indifferent_get (fun _ _ => rfl) fun w => ?_
    refine indifferent_bind (indifferent_result _) fun i => ?_
    exact indifferent_bind (trigger_indifferent scripts action _) fun _ => indifferent_pure _
  | message name =>
    refine indifferent_get (fun _ _ => rfl) fun w => ?_
    exact indifferent_bind (indifferent_result _) fun pair => indifferent_pure _
  | descriptor => exact showDescriptor_indifferent
  | actions row => exact listActions_indifferent row
  | query =>
    refine indifferent_get (fun _ _ => rfl) fun w => ?_
    refine indifferent_bind (indifferent_result _) fun q => ?_
    exact indifferent_bind (indifferent_result _) fun params => indifferent_pure _
  | exportSnapshot =>
    refine indifferent_get (fun _ _ => rfl) fun w => ?_
    exact indifferent_bind (indifferent_result _) fun q => indifferent_pure _
  | close => exact finished_indifferent (indifferent_change (close_softer scripts))

end Tables

section Runs

theorem completeCall_indifferent (scripts : ∀ s, Indifferent (run s)) (c : OpenCall) (o : Outcome) :
    Indifferent (completeCall run c o) := by
  unfold completeCall
  split
  · exact pageLoaded_indifferent scripts _ _ o
  · exact mutationDone_indifferent scripts _ o

theorem step_indifferent (scripts : ∀ s, Indifferent (run s)) (s : Step) : Indifferent (step run s) := by
  cases s with
  | workspace s => exact performWorkspace_indifferent s
  | table key s => exact performTable_indifferent scripts s
  | subscribe request callback =>
    refine indifferent_get (fun _ _ => rfl) fun w => ?_
    refine indifferent_bind (indifferent_result _) fun r => ?_
    exact indifferent_bind (subscribe_indifferent scripts _ callback) fun _ => indifferent_pure _
  | request request =>
    refine indifferent_get (fun _ _ => rfl) fun w => ?_
    refine indifferent_bind (indifferent_result _) fun r => ?_
    exact indifferent_get (fun _ _ => rfl) fun w => indifferent_pure _
  | on key signal steps =>
    refine indifferent_bind (indifferent_change fun softer => ?_) fun _ => indifferent_pure _
    exact softer.blind (f := fun w => { w with slots := w.slots ++ [{ key, signal, steps }] })
      fun _ _ => rfl
  | complete call delivery =>
    refine indifferent_get (fun _ _ => rfl) fun w => ?_
    refine indifferent_bind (indifferent_result _) fun c => ?_
    refine indifferent_bind (indifferent_result _) fun o => ?_
    exact finished_indifferent (completeCall_indifferent scripts c o)
  | provider modes =>
    -- From now on they answer in the same way.
    refine indifferent_bind (indifferent_change fun {w w'} softer => ?_) fun _ => indifferent_pure _
    have same : { w' with modes } = { w with modes } :=
      softer.read (f := fun w => { w with modes }) fun _ _ => rfl
    rw [same]
    exact .refl _
  | closeDialog dialog result =>
    refine indifferent_get (fun _ _ => rfl) fun w => ?_
    refine indifferent_bind (indifferent_result _) fun d => ?_
    exact finished_indifferent (dialogClosed_indifferent scripts d result)
  | answer question answer =>
    refine indifferent_get (fun _ _ => rfl) fun w => ?_
    refine indifferent_bind (indifferent_result _) fun q => ?_
    exact finished_indifferent (answered_indifferent scripts q answer)

theorem runTo_indifferent (depth : Nat) (s : Step) : Indifferent (runTo depth s) := by
  induction depth generalizing s with
  | zero => exact indifferent_pure _
  | succ depth ih => exact step_indifferent ih s

theorem played_softer (depth : Nat) (steps : List Step) (softer : Softer w w') :
    Softer (w.played depth steps) (w'.played depth steps) := by
  induction steps generalizing w w' with
  | nil => exact softer
  | cons s rest ih => exact ih (runTo_indifferent depth s softer).left

end Runs

end PagedTable.Application
