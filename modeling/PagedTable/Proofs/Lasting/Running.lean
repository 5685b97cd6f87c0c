import PagedTable.Proofs.Lasting

namespace PagedTable

theorem Step.alters_flag {s : Step} (alters : s.alters = true) :
    ∃ key name value, s = .table key (.setParentFlag name value) := by
  cases s with
  | table key s => cases s <;> first | exact ⟨_, _, _, rfl⟩ | cases alters
  | _ => cases alters

namespace Application

theorem setParentFlag_after (key : Nat) (name : String) (value : Value) (w : Application) :
    (setParentFlag key name value).after w = w ∨
      ∃ parent, (setParentFlag key name value).after w = w.modifyView key fun v => { v with parent } := by
  unfold setParentFlag
  rw [Act.after_get_bind, Act.after_result_bind]
  cases withFlag name value (w.view key).parent with
  | error e => exact .inl rfl
  | ok parent => exact .inr ⟨parent, rfl⟩

variable {leads : Application → Application → Prop} {run : Run} {key : Nat}

namespace Enduring

variable (lasting : Enduring leads)

include lasting

section Mutating

variable (scripts : Scripted leads run)

include scripts

theorem mutate (kind : MutationKind) (c : ProviderCall) (sequel : Sequel) :
    Along leads (mutate run key kind c sequel) := by
  intro w
  cases closed : (w.table key).closed with
  | true =>
    rw [mutate_closed kind c sequel closed]
    exact lasting.refl w
  | false =>
    let x : Mutation := { key, kind, sequel }
    have counted : leads (w.starting x) (updateBusy run key (w.starting x)) :=
      lasting.updateBusy scripts key _
    have asked : leads w (w.mutating run x c) := lasting.asked x c counted
    rw [Act.after_eq, mutate_open kind c sequel closed, ← Act.after_eq]
    exact lasting.trans asked (lasting.answering scripts _ c _)

omit scripts in
theorem checkIds (kind : MutationKind) (ids : List Value) : Along leads (checkIds kind ids) := by
  unfold Application.checkIds
  split
  · exact lasting.bind (lasting.report _ _ _) fun _ => lasting.pure false
  · exact lasting.pure true

theorem removeRows (ids : List Value) (sequel : Sequel) :
    Along leads (removeRows run key ids sequel) := by
  refine lasting.bind (lasting.checkIds .remove ids) fun some => ?_
  split
  · exact lasting.mutate scripts .remove _ sequel
  · exact lasting.pure ()

theorem forParent (kind : MutationKind) (call : Value → List Value → ProviderCall) (ids : List Value)
    (sequel : Sequel) : Along leads (forParent run key kind call ids sequel) := by
  have checked : Along leads (checkParent key kind) := by
    refine lasting.bind lasting.get fun w => ?_
    refine lasting.bind (lasting.result _) fun parent => ?_
    dsimp only
    split
    · exact lasting.bind (lasting.report _ _ _) fun _ => lasting.pure parent
    · exact lasting.pure parent
  refine lasting.bind checked fun parent => ?_
  split
  · refine lasting.bind (lasting.checkIds kind ids) fun some => ?_
    split
    · exact lasting.mutate scripts kind _ sequel
    · exact lasting.pure ()
  · exact lasting.pure ()

end Mutating

section Acting

theorem requireMediator : Along leads requireMediator := by
  refine lasting.bind lasting.get fun w => ?_
  split
  · exact lasting.fault _
  · exact lasting.pure ()

theorem openDialog (a : Action) (purpose : Purpose) (plan : DialogPlan) (ctx : ActionContext) :
    Along leads (openDialog key a purpose plan ctx) := by
  have targeted : Along leads (targetRow key ctx) := by
    unfold targetRow
    split
    · exact lasting.onView key fun v coherent => (v.rowById_described _).coherent coherent
    · exact lasting.pure _
  have read : Along leads (dialogParams key purpose plan ctx) := by
    unfold dialogParams
    split
    · refine lasting.bind targeted fun row => ?_
      split
      · exact lasting.bind (lasting.report _ _ _) fun _ => lasting.pure none
      · exact lasting.bind (lasting.result _) fun params => lasting.pure (some params)
    · exact lasting.bind (lasting.result _) fun params => lasting.pure (some params)
  refine lasting.bind read fun params => ?_
  cases params with
  | none => exact lasting.pure ()
  | some params =>
    refine lasting.bind lasting.get fun w => ?_
    refine lasting.bind lasting.requireMediator fun _ => ?_
    refine lasting.bind (along_change fun w => lasting.record w rfl) fun _ => ?_
    exact along_change fun w => lasting.beside w rfl

theorem ask (title message : TextPair) (intent : Intent) (ctx : ActionContext) :
    Along leads (ask key title message intent ctx) := by
  refine lasting.bind lasting.requireMediator fun _ => ?_
  refine lasting.bind lasting.get fun w => ?_
  refine lasting.bind (lasting.result _) fun titleText => ?_
  refine lasting.bind (lasting.result _) fun messageText => ?_
  refine lasting.bind (along_change fun w => lasting.record w rfl) fun _ => ?_
  exact along_change fun w => lasting.beside w rfl

theorem askForSelection (title message : TextPair) (intent : List Value → Intent)
    (ctx : ActionContext) : Along leads (askForSelection key title message intent ctx) := by
  unfold Application.askForSelection
  split
  · exact lasting.bind (lasting.report _ _ _) fun _ => lasting.pure ()
  · refine lasting.bind (lasting.onView key fun v coherent => ?_) fun ids => ?_
    · exact (v.orderIds_described _).coherent coherent
    · exact lasting.ask title message (intent ids) ctx

theorem exportNow : Along leads (exportNow key) := by
  have exporting : Along leads (do
      let v := (← get).view key
      let q ← Act.result v.query
      Act.change (record (.exported key v.plan.tableId q v.filters.snapshot)) :
        Act Application Unit) := by
    refine lasting.bind lasting.get fun w => ?_
    refine lasting.bind (lasting.result _) fun q => ?_
    exact along_change fun w => lasting.record w rfl
  refine lasting.bind lasting.get fun w => ?_
  dsimp only
  split
  · exact lasting.bind (lasting.fault _) fun _ => exporting
  · exact exporting

theorem runHandler (a : Action) (h : Handler) (ctx : ActionContext) :
    Along leads (runHandler a h ctx) := by
  refine lasting.bind (along_change fun w => lasting.record w rfl) fun _ => ?_
  split
  · exact lasting.fault _
  · exact lasting.pure ()

variable (scripts : Scripted leads run)

include scripts

theorem perform (a : Action) (ctx : ActionContext) : Along leads (perform run key a ctx) := by
  unfold Application.perform
  split
  · exact lasting.fault _
  · exact lasting.openDialog a _ _ ctx
  · exact lasting.askForSelection _ _ _ ctx
  · exact lasting.askForSelection _ _ _ ctx
  · exact lasting.exportNow
  · exact lasting.ask _ _ _ ctx
  · exact lasting.fault _
  · exact lasting.runHandler a _ ctx
  · exact lasting.refresh scripts
  · refine lasting.bind (lasting.onView key fun v coherent => ?_) fun _ => lasting.refresh scripts
    exact coherent.same v.resetFilters_makings

theorem trigger (action : String) (row : Value) : Along leads (trigger run key action row) := by
  refine lasting.bind (lasting.onView key fun v coherent => coherent.describe) fun d => ?_
  refine lasting.bind lasting.get fun w => ?_
  dsimp only
  split
  · exact lasting.pure false
  · split
    · exact lasting.pure false
    · split
      · exact lasting.pure false
      · exact lasting.bind (lasting.perform scripts _ _) fun _ => lasting.pure true

theorem dialogClosed (d : OpenDialog) (result : Value) : Along leads (dialogClosed run d result) := by
  have applied : Along leads (applyResult run d result) := by
    unfold applyResult
    split
    · exact lasting.fault _
    · exact lasting.mutate scripts .create _ .nothing
    · split
      · exact lasting.pure ()
      · exact lasting.mutate scripts .update _ .nothing
    · refine lasting.bind (lasting.result _) fun ids => ?_
      split
      · exact lasting.pure ()
      · exact lasting.forParent scripts .assign .assign ids .clearQuietly
  unfold Application.dialogClosed
  split
  · exact lasting.pure ()
  · split
    · exact lasting.pure ()
    · exact applied

theorem answered (q : OpenQuestion) (answer : Value) : Along leads (answered run q answer) := by
  unfold Application.answered
  split
  · split
    · exact lasting.removeRows scripts _ .clearQuietly
    · exact lasting.forParent scripts .unassign .unassign _ .clearQuietly
    · exact lasting.exportNow
  · exact lasting.pure ()

end Acting

section Stepping

theorem workspace? (f : Workspace → Except Fault Workspace) : Along leads (workspace? f) := by
  intro w
  unfold Application.workspace?
  rw [Act.after_eq, Act.outcome_update]
  split
  · exact lasting.beside w rfl
  · exact lasting.refl w

theorem announce (f : Workspace → List Notice) : Along leads (announce f) :=
  lasting.bind (along_change fun w => lasting.notices w _) fun _ => lasting.pure _

theorem performWorkspace (s : WorkspaceStep) : Along leads (performWorkspace s) := by
  have worded (f : Workspace → Except Fault String) : Along leads (worded f) := by
    refine lasting.bind lasting.get fun w => ?_
    exact lasting.bind (lasting.result _) fun text => lasting.pure _
  cases s <;> dsimp only [Application.performWorkspace]
  case wording phrase text args => exact worded _
  case ownerWording phrase text args => exact worded _
  case pairWording pair args => exact worded _
  case setWording phrase text => exact lasting.workspace? _
  case showError message title => exact lasting.announce _
  case showMessage message => exact lasting.announce _
  case handleFailure fault phrase text args =>
    exact lasting.bind (fun w => lasting.notices w _) fun f => lasting.pure _
  case pageSizeOf table => exact lasting.bind lasting.get fun w => lasting.pure _
  case setPageSizeVariable value => exact lasting.workspace? _
  case setSetting name value => exact lasting.workspace? _
  case setting name missing => exact lasting.bind lasting.get fun w => lasting.pure _
  case override name missing strict =>
    split
    · refine lasting.bind lasting.get fun w => ?_
      exact lasting.bind (lasting.result _) fun v => lasting.pure _
    · exact lasting.bind lasting.get fun w => lasting.pure _
  case setOverride name value strict =>
    split <;> exact lasting.workspace? _
  case setUpLogging => exact fun w => lasting.beside w rfl
  case plugin hook plugin =>
    exact lasting.bind (lasting.workspace? _) fun _ => lasting.pure _
  case unregister name =>
    have leaving : Along leads (do
        let _ ← setWorkspace fun w => { w with plugins := w.plugins.unregister name }
        return flagOf ((← get).workspace.plugins.isRegistered name)) :=
      lasting.bind (lasting.workspace? _) fun _ => lasting.bind lasting.get fun w => lasting.pure _
    refine lasting.bind lasting.get fun w => ?_
    split
    · exact lasting.bind (lasting.fault _) fun _ => leaving
    · exact leaving
  case callHook hook =>
    split
    · exact lasting.pure _
    · exact lasting.bind (lasting.announce _) fun _ => lasting.bind lasting.get fun w => lasting.pure _

theorem changed {f : TableView → TableView × Except Fault Bool}
    (coherent : ∀ v : TableView, v.Coherent → (f v).1.Coherent) : Along leads (changed key f) :=
  lasting.bind (lasting.onView key coherent) fun _ => lasting.pure _

theorem numberedRequest (keep : Option Bool) : Along leads (numberedRequest key keep) := by
  refine lasting.bind (lasting.newRequest keep) fun r => ?_
  exact lasting.bind (along_change fun w => lasting.beside w rfl) fun _ => lasting.pure r

theorem finished {a : Act Application Unit} (along : Along leads a) : Along leads (finished a) :=
  lasting.bind along fun _ => lasting.pure _

variable (scripts : Scripted leads run)

include scripts

theorem setMode (mode : Value) : Along leads (setMode run key mode) := by
  refine lasting.bind (lasting.result _) fun mode => ?_
  refine lasting.bind lasting.get fun w => ?_
  dsimp only
  split
  · exact lasting.pure _
  · refine lasting.bind (along_change fun w => lasting.sight key _ w) fun _ => ?_
    refine lasting.bind (along_change fun w => lasting.view key _ w fun c => c.same rfl) fun _ => ?_
    refine lasting.bind (lasting.onView key fun v coherent => coherent.describe) fun d => ?_
    have turned : Along leads (do
        Act.change (emit run key (.modeChanged mode))
        return flagOf true : Act Application Answer) :=
      lasting.bind (along_change (lasting.emit scripts key _)) fun _ => lasting.pure _
    split
    · exact lasting.bind (along_change (lasting.clearSelection scripts key)) fun _ => turned
    · exact turned

theorem setParent (entity : Value) (w : Application) : leads w (setParent run key entity w) := by
  let bound (v : TableView) : TableView := { v with parent := entity }.forget.toFirstPage
  have forgot : leads w (w.modifyView key bound) :=
    lasting.view key bound w fun _ => TableView.coherent_none rfl
  have marked := lasting.trans forgot (lasting.record _ (e := .mark key .parentBound) rfl)
  have cleared := lasting.trans marked (lasting.clearSelection scripts key _)
  have settled := lasting.trans cleared (lasting.record _ (e := .mark key .parentSettled) rfl)
  have dropped := lasting.trans settled (lasting.discardAll scripts key _)
  exact lasting.trans dropped (lasting.updateBusy scripts key _)

theorem select (ids : List Value) : Along leads (select run key ids) := by
  refine lasting.bind (lasting.onView key fun v coherent => ?_) fun chosen => ?_
  · exact (v.selection_described ids).coherent coherent
  · have told : Along leads (do return .ids ((← get).view key).selected : Act Application Answer) :=
      lasting.bind lasting.get fun w => lasting.pure _
    cases chosen with
    | none => exact told
    | some chosen => exact lasting.bind (along_change (lasting.setSelection scripts chosen)) fun _ => told

theorem performTable (s : TableStep) (plain : Step.alters (.table key s) = false) :
    Along leads (performTable run key s) := by
  cases s with
  | reload keep =>
    refine lasting.bind lasting.get fun w => ?_
    exact lasting.bind (lasting.numberedRequest keep) fun _ => lasting.pure _
  | refresh =>
    refine lasting.bind (lasting.numberedRequest none) fun r => ?_
    refine lasting.bind (lasting.subscribe scripts r none) fun _ => ?_
    exact lasting.bind lasting.get fun w => lasting.pure _
  | setFilter id value => exact lasting.changed fun v c => c.same (v.setFilter_makings id value)
  | setSearch text => exact lasting.changed fun v c => c.same (v.setSearch_makings text)
  | resetFilters => exact lasting.changed fun v c => c.same v.resetFilters_makings
  | setSort column direction => exact lasting.changed fun v c => c.setSort column direction
  | setPage index => exact lasting.changed fun v c => c.same (v.setPage_makings index)
  | setPageSize size remember =>
    refine lasting.bind (lasting.onView key fun v c => c.same (v.setPageSize_makings size)) fun r => ?_
    refine lasting.bind lasting.get fun w => ?_
    dsimp only
    split
    · exact lasting.bind (lasting.workspace? _) fun _ => lasting.pure _
    · exact lasting.pure _
  | setMode mode => exact lasting.setMode scripts mode
  | setParent entity => exact lasting.finished (along_change (lasting.setParent scripts entity))
  | setParentFlag name value => cases plain
  | parentId =>
    refine lasting.bind lasting.get fun w => ?_
    exact lasting.bind (lasting.result _) fun id => lasting.pure _
  | select ids => exact lasting.select scripts ids
  | clearSelection => exact lasting.finished (along_change (lasting.clearSelection scripts key))
  | selectedRows =>
    refine lasting.bind (lasting.onView key fun v c => ?_) fun _ => lasting.pure _
    exact v.selectedRows_described.coherent c
  | orderIds ids =>
    refine lasting.bind (lasting.onView key fun v c => ?_) fun _ => lasting.pure _
    exact (v.orderIds_described ids).coherent c
  | rowId row =>
    refine lasting.bind (lasting.onView key fun v c => ?_) fun _ => lasting.pure _
    exact (v.rowId_described row).coherent c
  | rowById id =>
    refine lasting.bind (lasting.onView key fun v c => ?_) fun _ => lasting.pure _
    exact (v.rowById_described id).coherent c
  | create entity sequel => exact lasting.finished (lasting.mutate scripts .create _ sequel)
  | update entity sequel => exact lasting.finished (lasting.mutate scripts .update _ sequel)
  | remove ids sequel => exact lasting.finished (lasting.removeRows scripts ids sequel)
  | assign ids sequel => exact lasting.finished (lasting.forParent scripts .assign .assign ids sequel)
  | unassign ids sequel =>
    exact lasting.finished (lasting.forParent scripts .unassign .unassign ids sequel)
  | trigger action row => exact lasting.bind (lasting.trigger scripts action row) fun _ => lasting.pure _
  | triggerRow action index =>
    refine lasting.bind lasting.get fun w => ?_
    refine lasting.bind (lasting.result _) fun i => ?_
    exact lasting.bind (lasting.trigger scripts action _) fun _ => lasting.pure _
  | message name =>
    refine lasting.bind lasting.get fun w => ?_
    exact lasting.bind (lasting.result _) fun pair => lasting.pure _
  | descriptor =>
    refine lasting.bind (lasting.onView key fun v c => c.describe) fun d => ?_
    refine lasting.bind lasting.get fun w => ?_
    exact lasting.bind (along_change fun w => lasting.beside w rfl) fun _ => lasting.pure _
  | actions row =>
    refine lasting.bind (lasting.onView key fun v c => c.describe) fun d => ?_
    exact lasting.bind lasting.get fun w => lasting.pure _
  | query =>
    refine lasting.bind lasting.get fun w => ?_
    refine lasting.bind (lasting.result _) fun q => ?_
    exact lasting.bind (lasting.result _) fun params => lasting.pure _
  | exportSnapshot =>
    refine lasting.bind lasting.get fun w => ?_
    exact lasting.bind (lasting.result _) fun q => lasting.pure _
  | close => exact lasting.finished (along_change (lasting.close scripts))

theorem step (s : Step) (plain : s.alters = false) : Along leads (step run s) := by
  cases s with
  | workspace s => exact lasting.performWorkspace s
  | table key s => exact lasting.performTable scripts s plain
  | subscribe request callback =>
    refine lasting.bind lasting.get fun w => ?_
    refine lasting.bind (lasting.result _) fun r => ?_
    exact lasting.bind (lasting.subscribe scripts _ callback) fun _ => lasting.pure _
  | request request =>
    refine lasting.bind lasting.get fun w => ?_
    refine lasting.bind (lasting.result _) fun r => ?_
    exact lasting.bind lasting.get fun w => lasting.pure _
  | on key signal steps =>
    exact lasting.bind (along_change fun w => lasting.beside w rfl) fun _ => lasting.pure _
  | complete call delivery =>
    refine lasting.bind lasting.get fun w => ?_
    refine lasting.bind (lasting.result _) fun c => ?_
    refine lasting.bind (lasting.result _) fun o => lasting.finished ?_
    unfold completeCall
    split
    · exact lasting.pageLoaded scripts _ _ o
    · exact lasting.mutationDone scripts _ o
  | provider modes =>
    exact lasting.bind (along_change fun w => lasting.beside w rfl) fun _ => lasting.pure _
  | closeDialog dialog result =>
    refine lasting.bind lasting.get fun w => ?_
    refine lasting.bind (lasting.result _) fun d => ?_
    exact lasting.finished (lasting.dialogClosed scripts d result)
  | answer question answer =>
    refine lasting.bind lasting.get fun w => ?_
    refine lasting.bind (lasting.result _) fun q => ?_
    exact lasting.finished (lasting.answered scripts q answer)

end Stepping

section Running

theorem runTo (depth : Nat) : Scripted leads (runTo depth) := by
  induction depth with
  | zero =>
    intro s w
    have told := Event.alters_followed s ((Application.runTo 0 s).outcome w).1
    cases altering : s.alters with
    | false => exact lasting.record w (told.trans altering)
    | true => exact lasting.altered 0 (told.trans altering) (.inl rfl)
  | succ depth ih =>
    intro s w
    have told := Event.alters_followed s ((Application.runTo (depth + 1) s).outcome w).1
    cases altering : s.alters with
    | false => exact lasting.trans (lasting.step ih s altering w) (lasting.record _ (told.trans altering))
    | true =>
      obtain ⟨key, name, value, rfl⟩ := Step.alters_flag altering
      exact lasting.altered key (told.trans altering) (setParentFlag_after key name value w)

theorem runs (depth : Nat) {s : Step} (plain : s.alters = false) : Along leads (Application.runTo depth s) := by
  cases depth with
  | zero => exact lasting.pure _
  | succ depth => exact lasting.step (lasting.runTo depth) s plain

theorem all (free : ∀ key f w, leads w (w.modifyView key f)) (depth : Nat) (s : Step) :
    Along leads (Application.runTo depth s) := by
  cases altering : s.alters with
  | false => exact lasting.runs depth altering
  | true =>
    cases depth with
    | zero => exact lasting.pure _
    | succ depth =>
      obtain ⟨key, name, value, rfl⟩ := Step.alters_flag altering
      intro w
      change leads w ((setParentFlag key name value).after w)
      rcases setParentFlag_after key name value w with same | ⟨parent, set⟩
      · rw [same]
        exact lasting.refl w
      · rw [set]
        exact free key _ w

theorem played (depth : Nat) {steps : List Step}
    (each : ∀ s ∈ steps, Along leads (Application.runTo depth s)) (w : Application) :
    leads w (w.played depth steps) := by
  induction steps generalizing w with
  | nil => exact lasting.refl w
  | cons s rest ih =>
    obtain ⟨first, others⟩ := List.forall_mem_cons.mp each
    exact lasting.trans (first w) (ih others _)

end Running

end Enduring

end Application

end PagedTable
