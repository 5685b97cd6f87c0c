import PagedTable.Proofs.Weaving.Acting

namespace PagedTable.Application
open Strand

variable {run : Run} {key : Nat}

section Workspaces

theorem workspace_keeps (f : Workspace → Except Fault Workspace) : Keeps (workspace? f) := by
  refine keeps_update fun w => ?_
  split <;> exact Alike.weaves ⟨fun _ _ => rfl, rfl⟩

theorem setWorkspace_keeps (f : Workspace → Workspace) : Keeps (setWorkspace f) := workspace_keeps _

theorem worded_keeps (f : Workspace → Except Fault String) : Keeps (worded f) := by
  refine keeps_bind keeps_get fun w => ?_
  exact keeps_bind (keeps_result _) fun text => keeps_pure _

theorem announce_keeps (f : Workspace → List Notice) : Keeps (announce f) := by
  refine keeps_bind (keeps_change fun w => (notices_alike _).weaves) fun _ => ?_
  exact keeps_pure _

theorem performWorkspace_keeps (s : WorkspaceStep) : Keeps (performWorkspace s) := by
  cases s <;> dsimp only [performWorkspace]
  case wording phrase text args => exact worded_keeps _
  case ownerWording phrase text args => exact worded_keeps _
  case pairWording pair args => exact worded_keeps _
  case setWording phrase text => exact setWorkspace_keeps _
  case showError message title => exact announce_keeps _
  case showMessage message => exact announce_keeps _
  case handleFailure fault phrase text args =>
    refine keeps_bind (keeps_update fun w => (notices_alike _).weaves) fun f => ?_
    exact keeps_pure _
  case pageSizeOf table => exact keeps_bind keeps_get fun w => keeps_pure _
  case setPageSizeVariable value => exact setWorkspace_keeps _
  case setSetting name value => exact setWorkspace_keeps _
  case setting name missing => exact keeps_bind keeps_get fun w => keeps_pure _
  case override name missing strict =>
    split
    · refine keeps_bind keeps_get fun w => ?_
      exact keeps_bind (keeps_result _) fun v => keeps_pure _
    · exact keeps_bind keeps_get fun w => keeps_pure _
  case setOverride name value strict =>
    split
    · exact workspace_keeps _
    · exact setWorkspace_keeps _
  case setUpLogging => exact keeps_update fun w => Alike.weaves ⟨fun _ _ => rfl, rfl⟩
  case plugin hook plugin =>
    exact keeps_bind (workspace_keeps _) fun _ => keeps_pure _
  case unregister name =>
    have leaving : Keeps (do
        let _ ← setWorkspace fun w => { w with plugins := w.plugins.unregister name }
        return flagOf ((← get).workspace.plugins.isRegistered name)) :=
      keeps_bind (setWorkspace_keeps _) fun _ => keeps_bind keeps_get fun w => keeps_pure _
    refine keeps_bind keeps_get fun w => ?_
    split
    · exact keeps_bind (keeps_throw _) fun _ => leaving
    · exact leaving
  case callHook hook =>
    split
    · exact keeps_pure _
    · exact keeps_bind (announce_keeps _) fun _ => keeps_bind keeps_get fun w => keeps_pure _

end Workspaces

section Tables

theorem changed_keeps {f : TableView → TableView × Except Fault Bool}
    (change : ∀ v : TableView, v.Change (f v).1) : Keeps (changed key f) :=
  keeps_bind (keeps_onView change) fun _ => keeps_pure _

theorem setPageSize_keeps (size : Number) (remember : Bool) : Keeps (setPageSize key size remember) := by
  refine keeps_bind (keeps_onView fun v => .pageSize size) fun r => ?_
  refine keeps_bind keeps_get fun w => ?_
  dsimp only
  split
  · exact keeps_bind (setWorkspace_keeps _) fun _ => keeps_pure _
  · exact keeps_pure _

theorem setParentFlag_keeps (name : String) (value : Value) :
    Keeps (setParentFlag key name value) := by
  refine keeps_get_bind fun w => ?_
  rw [Act.after_result_bind]
  cases set : withFlag name value (w.view key).parent with
  | error e => exact .refl w
  | ok entity =>
    dsimp only
    rw [Act.after_change_bind]
    exact view_weaves (f := fun v => { v with parent := entity }) (.flag name value entity set)

theorem numberedRequest_keeps (keep : Option Bool) : Keeps (numberedRequest key keep) := by
  refine keeps_bind (newRequest_keeps keep) fun r => ?_
  exact keeps_bind (keeps_change fun w => Alike.weaves ⟨fun _ _ => rfl, rfl⟩) fun _ => keeps_pure r

theorem finished_keeps {a : Act Application Unit} (kept : Keeps a) : Keeps (finished a) :=
  keeps_bind kept fun _ => keeps_pure _

theorem showDescriptor_keeps : Keeps (showDescriptor key) := by
  refine keeps_bind (keeps_onView fun v => .described v.describe_described) fun d => ?_
  refine keeps_bind keeps_get fun w => ?_
  exact keeps_bind (keeps_change fun w => Alike.weaves ⟨fun _ _ => rfl, rfl⟩) fun _ => keeps_pure _

theorem listActions_keeps (row : Value) : Keeps (listActions key row) := by
  refine keeps_bind (keeps_onView fun v => .described v.describe_described) fun d => ?_
  exact keeps_bind keeps_get fun w => keeps_pure _

theorem turn_weaves {w : Application} {mode : TableMode} (other : mode ≠ (w.view key).mode) :
    Weaves w ((w.sight key (.turning mode)).modifyView key fun v => v.inMode mode) := by
  apply Shift.weaves key
  refine .move (fun tasks => ?_) ((only_sight _).trans (only_modifyView _))
  have move : Move key _ _ := .turn (s := w.strand tasks key) mode other
  rw [strand_modifyView, strand_sight]
  exact move

variable (scripts : Scripts run)

include scripts

theorem setMode_keeps (mode : Value) : Keeps (setMode run key mode) := by
  refine keeps_bind (keeps_result _) fun mode => ?_
  refine keeps_get_bind fun w => ?_
  dsimp only
  split
  · exact .refl w
  · rename_i other
    let seen := w.sight key (.turning mode)
    let moded := seen.modifyView key fun v => { v with mode }
    let reached := seen.modifyView key fun v => v.inMode mode
    have showing : moded.view key = { w.view key with mode } := view_modifyView _
    have turning : Viewed key ((w.view key).inMode mode) seen reached := .modify (fun v => v.inMode mode) seen
    refine (turn_weaves other).trans ?_
    rw [Act.after_change_bind, Act.after_change_bind, after_onView_bind, showing]
    rcases read : ({ w.view key with mode } : TableView).describe with ⟨v, e | ⟨n, d⟩⟩
    all_goals
      have reading : Viewed key v seen (moded.modifyView key fun _ => v) :=
        (Viewed.modify (fun v => { v with mode }) seen).trans (.modify (fun _ => v) moded)
      have shown : (moded.modifyView key fun _ => v).view key = v := view_modifyView _
    · rw [TableView.inMode_error read] at turning
      exact (turning.alike reading).weaves
    · rw [TableView.inMode_ok read] at turning
      have announced := emit_weaves scripts key (.modeChanged mode) rfl
      dsimp only
      cases enabled : d.table.rowSelection.enabled with
      | true =>
        rw [if_pos enabled] at turning
        rw [if_neg (by simp), Act.after_change_bind]
        exact (turning.alike reading).weaves.trans (announced (moded.modifyView key fun _ => v))
      | false =>
        rw [if_neg (by simp [enabled])] at turning
        rw [if_pos (by simp), Act.after_change_bind, Act.after_change_bind]
        refine Weaves.trans ?_ (announced (clearSelection run key (moded.modifyView key fun _ => v)))
        apply clearSelection_weaves scripts
        rw [shown]
        exact reading.across turning

-- Nothing that was asked for under the parent before counts once the table is bound to another.
theorem setParent_weaves (entity : Value) (w : Application) :
    Weaves w (setParent run key entity w) := by
  let moved := w.modifyView key fun v => { v with parent := entity }.forget.toFirstPage
  let marked := moved.record (.mark key .parentBound)
  let bound := (w.modifyView key fun v => v.bound entity).record (.mark key .parentBound)
  have binding : Shift key [] [.binding] w bound := by
    have only : Only key (w.modifyView key fun v => v.bound entity) bound := only_record rfl
    refine .move (fun tasks => ?_) ((only_modifyView _).trans only)
    rw [strand_record rfl, strand_modifyView]
    exact .bind entity
  have viewed : Viewed key { marked.view key with selected := [] } marked bound := by
    have moving : Viewed key { w.view key with parent := entity }.forget.toFirstPage w moved :=
      .modify (fun v => { v with parent := entity }.forget.toFirstPage) w
    have turning : Viewed key ((w.view key).bound entity) w (w.modifyView key fun v => v.bound entity) :=
      .modify (fun v => v.bound entity) w
    have showing : moved.view key = { w.view key with parent := entity }.forget.toFirstPage :=
      view_modifyView _
    change Viewed key { moved.view key with selected := [] } marked bound
    rw [showing]
    exact (moving.across turning).record rfl
  -- what was in flight goes only after the selection was announced
  have release (x : Application) : Shift key [.binding] [.counting] x
      ((host run key).discardAll (x.record (.mark key .parentSettled))) := by
    let settled := x.record (.mark key .parentSettled)
    have only : Only key x settled := only_record rfl
    let flying := (x.table key).book.flying
    have released : Shift key [.binding] (flying.map .holding ++ [.counting]) x
        (settled.modifyBook key Book.untrackAll) := by
      refine .move (fun tasks => ?_) (only.trans (only_modifyBook _ settled))
      have move : Move key _ _ := .release (s := x.strand (.binding :: tasks) key) rfl
      rw [strand_modifyBook, strand_record rfl, List.append_assoc]
      exact move
    exact released.trans ((discardEach_shift scripts key flying _).above [.counting])
  apply Shift.weaves key
  refine (binding.then (clearSelection_weaves scripts viewed)).trans ?_
  exact (release _).trans (updateBusy_shift scripts key _)

theorem select_keeps (ids : List Value) : Keeps (select run key ids) := by
  intro w
  let read := (w.view key).selection ids
  let described := w.modifyView key fun _ => read.1
  have reading : Viewed key read.1 w described := .modify (fun _ => read.1) w
  have shown : described.view key = read.1 := view_modifyView _
  have known : Weaves w described := view_weaves (f := fun _ => read.1)
    (.described ((w.view key).selection_described ids))
  unfold select
  rw [after_onView_bind]
  cases allowed : ((w.view key).selection ids).2 with
  | error e => exact known
  | ok chosen =>
    cases chosen with
    | none => exact known
    | some chosen =>
      let v := if Members.same chosen read.1.selected then read.1 else { read.1 with selected := chosen }
      have change : (w.view key).Change v := by
        unfold v
        split
        · exact .described ((w.view key).selection_described ids)
        · exact .select ids chosen allowed
      have choosing : Viewed key v w (w.modifyView key fun _ => v) := .modify (fun _ => v) w
      have chose : Weaves (w.modifyView key fun _ => v) (setSelection run key chosen described) := by
        apply setSelection_weaves scripts
        rw [shown]
        exact reading.across choosing
      exact (view_weaves (f := fun _ => v) change).trans chose

theorem performTable_keeps (s : TableStep) : Keeps (performTable run key s) := by
  cases s with
  | reload keep =>
    refine keeps_bind keeps_get fun w => ?_
    exact keeps_bind (numberedRequest_keeps keep) fun _ => keeps_pure _
  | refresh =>
    refine keeps_bind (numberedRequest_keeps none) fun r => ?_
    refine keeps_bind (subscribe_keeps scripts r none) fun _ => ?_
    exact keeps_bind keeps_get fun w => keeps_pure _
  | setFilter id value => exact changed_keeps fun v => .filter id value
  | setSearch text => exact changed_keeps fun v => .search text
  | resetFilters => exact changed_keeps fun v => .reset
  | setSort column direction => exact changed_keeps fun v => .sort column direction
  | setPage index => exact changed_keeps fun v => .page index
  | setPageSize size remember => exact setPageSize_keeps size remember
  | setMode mode => exact setMode_keeps scripts mode
  | setParent entity => exact finished_keeps (keeps_change (setParent_weaves scripts entity))
  | setParentFlag name value => exact setParentFlag_keeps name value
  | parentId =>
    refine keeps_bind keeps_get fun w => ?_
    exact keeps_bind (keeps_result _) fun id => keeps_pure _
  | select ids => exact select_keeps scripts ids
  | clearSelection => exact finished_keeps (keeps_change (clearSelection_keeps scripts))
  | selectedRows =>
    exact keeps_bind (keeps_onView fun v => .described v.selectedRows_described) fun _ => keeps_pure _
  | orderIds ids =>
    exact keeps_bind (keeps_onView fun v => .described (v.orderIds_described ids)) fun _ => keeps_pure _
  | rowId row =>
    exact keeps_bind (keeps_onView fun v => .described (v.rowId_described row)) fun _ => keeps_pure _
  | rowById id =>
    exact keeps_bind (keeps_onView fun v => .described (v.rowById_described id)) fun _ => keeps_pure _
  | create entity sequel => exact finished_keeps (mutate_keeps scripts .create _ sequel rfl)
  | update entity sequel => exact finished_keeps (mutate_keeps scripts .update _ sequel rfl)
  | remove ids sequel => exact finished_keeps (removeRows_keeps scripts ids sequel)
  | assign ids sequel => exact finished_keeps (assignRows_keeps scripts ids sequel)
  | unassign ids sequel => exact finished_keeps (unassignRows_keeps scripts ids sequel)
  | trigger action row => exact keeps_bind (trigger_keeps scripts action row) fun _ => keeps_pure _
  | triggerRow action index =>
    refine keeps_bind keeps_get fun w => ?_
    refine keeps_bind (keeps_result _) fun i => ?_
    exact keeps_bind (trigger_keeps scripts action _) fun _ => keeps_pure _
  | message name =>
    refine keeps_bind keeps_get fun w => ?_
    exact keeps_bind (keeps_result _) fun pair => keeps_pure _
  | descriptor => exact showDescriptor_keeps
  | actions row => exact listActions_keeps row
  | query =>
    refine keeps_bind keeps_get fun w => ?_
    refine keeps_bind (keeps_result _) fun q => ?_
    exact keeps_bind (keeps_result _) fun params => keeps_pure _
  | exportSnapshot =>
    refine keeps_bind keeps_get fun w => ?_
    exact keeps_bind (keeps_result _) fun q => keeps_pure _
  | close => exact finished_keeps (keeps_change (close_weaves scripts))

end Tables

section Runs

theorem completeCall_weaves (scripts : Scripts run) {w : Application} {c : OpenCall} (made : c ∈ w.calls)
    (o : Outcome) : Weaves w ((completeCall run c o).after w) := by
  unfold completeCall
  split
  · rename_i token keep purpose
    exact pageLoaded_weaves scripts ⟨c, made, rfl, keep, purpose⟩ keep o
  · exact mutationDone_keeps scripts _ o w

theorem numbered_mem {α : Type} {items : List α} {i : Int} {x : α} (found : numbered items i = .ok x) :
    x ∈ items := by
  unfold numbered at found
  split at found
  · cases found
  · split at found
    · rename_i n _ _ y located
      cases found
      exact List.mem_of_getElem? located
    · cases found

theorem step_keeps (scripts : Scripts run) (s : Step) : Keeps (step run s) := by
  cases s with
  | workspace s => exact performWorkspace_keeps s
  | table key s => exact performTable_keeps scripts s
  | subscribe request callback =>
    refine keeps_bind keeps_get fun w => ?_
    refine keeps_bind (keeps_result _) fun r => ?_
    exact keeps_bind (subscribe_keeps scripts _ callback) fun _ => keeps_pure _
  | request request =>
    refine keeps_bind keeps_get fun w => ?_
    refine keeps_bind (keeps_result _) fun r => ?_
    exact keeps_bind keeps_get fun w => keeps_pure _
  | on key signal steps =>
    exact keeps_bind (keeps_change fun w => Alike.weaves ⟨fun _ _ => rfl, rfl⟩) fun _ => keeps_pure _
  | complete call delivery =>
    refine keeps_get_bind fun w => ?_
    rw [Act.after_result_bind]
    cases found : numbered w.calls call with
    | error e => exact .refl w
    | ok c =>
      dsimp only
      rw [Act.after_result_bind]
      cases delivery.outcome with
      | error e => exact .refl w
      | ok o =>
        have completed := completeCall_weaves scripts (numbered_mem found) o
        dsimp only [finished]
        rw [Act.after_bind]
        rw [Act.after_eq] at completed
        generalize (completeCall run c o).outcome w = reached at completed ⊢
        obtain ⟨e | ⟨⟩, x⟩ := reached <;> exact completed
  | provider modes =>
    exact keeps_bind (keeps_change fun w => Alike.weaves ⟨fun _ _ => rfl, rfl⟩) fun _ => keeps_pure _
  | closeDialog dialog result =>
    refine keeps_bind keeps_get fun w => ?_
    refine keeps_bind (keeps_result _) fun d => ?_
    exact finished_keeps (dialogClosed_keeps scripts d result)
  | answer question answer =>
    refine keeps_bind keeps_get fun w => ?_
    refine keeps_bind (keeps_result _) fun q => ?_
    exact finished_keeps (answered_keeps scripts q answer)

theorem runTo_keeps (depth : Nat) : Scripts (runTo depth) := by
  induction depth with
  | zero => exact fun _ => keeps_pure _
  | succ depth ih => exact step_keeps ih

-- What applications can come to: some tables are made, each once, and steps follow, whatever their
-- outcomes.
inductive Reached : Application → Prop where
  | start (workspace : Workspace) (modes : ProviderModes) : Reached { workspace, modes }
  | opened (before : Reached w) (fresh : Entries.get? k w.tables = none) (o : Opening) :
      Reached ((openTable k o).after w)
  | stepped (before : Reached w) (depth : Nat) (s : Step) : Reached ((runTo depth s).after w)

def played (depth : Nat) (steps : List Step) (w : Application) : Application :=
  steps.foldl (fun w s => (runTo depth s).after w) w

theorem played_weaves (depth : Nat) (steps : List Step) (w : Application) :
    Weaves w (w.played depth steps) := by
  induction steps generalizing w with
  | nil => exact .refl w
  | cons s rest ih => exact (runTo_keeps depth s w).trans (ih _)

theorem Reached.played {w : Application} (before : Reached w) (depth : Nat) (steps : List Step) :
    Reached (w.played depth steps) := by
  induction steps generalizing w with
  | nil => exact before
  | cons s rest ih => exact ih (before.stepped depth s)

def opened (o : Opening) : Application := (openTable 0 o).after {}

theorem opened_reached (o : Opening) : Reached (opened o) := .opened (.start {} []) rfl o

theorem startingFilters_sound {plan : TablePlan} {mode : TableMode} {parent : Value} {s : FilterState}
    (made : startingFilters plan mode parent = .ok s) : s.Sound := by
  unfold startingFilters at made
  obtain ⟨defs, -, made⟩ := Act.bind_ok made
  obtain ⟨filters, declared, made⟩ := Act.bind_ok made
  obtain ⟨table, -, made⟩ := Act.bind_ok made
  have sound := FilterState.ofDefs_sound declared
  split at made
  · split at made
    · rename_i added
      cases made
      exact sound.addDef added
    · cases made
  · cases made
    exact sound

theorem startingView_made {workspace : Workspace} {o : Opening} {v : TableView}
    (made : startingView workspace o = .ok v) :
    ∃ mode paging filters sorting, startingPaging workspace o = .ok paging ∧
      startingFilters o.plan mode o.parent = .ok filters ∧
      v = { ({ plan := o.plan, mode, parent := o.parent, filters, paging } : TableView).describe.1
        with sorting } := by
  unfold startingView at made
  obtain ⟨mode, -, made⟩ := Act.bind_ok made
  obtain ⟨paging, paged, made⟩ := Act.bind_ok made
  obtain ⟨filters, starting, made⟩ := Act.bind_ok made
  dsimp only at made
  refine ⟨mode, paging, filters, v.sorting, paged, starting, ?_⟩
  split at made <;> rename_i described
  · cases made
  · rw [described]
    split at made
    · cases made
      rfl
    · obtain ⟨sorting, -, made⟩ := Act.bind_ok made
      cases made
      rfl

theorem startingView_bare {workspace : Workspace} {o : Opening} {v : TableView}
    (made : startingView workspace o = .ok v) :
    TableView.Kept { plan := o.plan, parent := o.parent } v ∧ v.selected = [] ∧ v.Faithful := by
  obtain ⟨mode, paging, filters, sorting, -, -, rfl⟩ := startingView_made made
  have bare : TableView.Kept { plan := o.plan, parent := o.parent }
      { plan := o.plan, mode, parent := o.parent, filters, paging } := .same rfl
  have read := TableView.describe_steady
    { plan := o.plan, mode, parent := o.parent, filters, paging }
  have faithful := read.faithful fun _ _ _ kept => nomatch kept
  exact ⟨(bare.trans read.toKept).trans (.same rfl), read.selected, faithful⟩

theorem startingView_sound {workspace : Workspace} {o : Opening} {v : TableView}
    (made : startingView workspace o = .ok v) : v.filters.Sound := by
  obtain ⟨mode, paging, filters, sorting, -, starting, rfl⟩ := startingView_made made
  have read := (TableView.describe_described
    { plan := o.plan, mode, parent := o.parent, filters, paging }).asks.1
  rw [← show _ = filters from read] at starting
  exact startingFilters_sound starting

theorem startingView_proper {workspace : Workspace} {o : Opening} {v : TableView}
    (made : startingView workspace o = .ok v) : v.paging.Proper := by
  obtain ⟨mode, paging, filters, sorting, paged, -, rfl⟩ := startingView_made made
  have read := (TableView.describe_described
    { plan := o.plan, mode, parent := o.parent, filters, paging }).asks.2.2
  rw [← show _ = paging from read] at paged
  exact Paging.make_proper paged

theorem opened_plan {o : Opening} (used : 0 < ((opened o).view 0).made) :
    ((opened o).view 0).plan = o.plan := by
  unfold opened openTable at used ⊢
  rw [Act.after_get_bind, Act.after_result_bind] at used ⊢
  cases made : startingView ({} : Application).workspace o with
  | error e =>
    rw [made] at used
    cases used
  | ok v =>
    dsimp only
    rw [Act.after_change_bind, Act.after_change]
    exact (startingView_bare made).1.plan

theorem openTable_weaves {w : Application} (fresh : Entries.get? key w.tables = none) (o : Opening) :
    Weaves w ((openTable key o).after w) := by
  unfold openTable
  rw [Act.after_get_bind, Act.after_result_bind]
  cases made : startingView w.workspace o with
  | error e => exact .refl w
  | ok v =>
    dsimp only
    rw [Act.after_change_bind, Act.after_change]
    refine Weaves.trans ?_ (notices_alike _).weaves
    have unused : w.table key = {} := by simp [table, fresh]
    obtain ⟨kept, unselected, faithful⟩ := startingView_bare made
    have numbered := kept.numbered fun described => absurd rfl described
    have bare : (w.table key).view.SameRows v := by
      rw [unused]
      exact kept.rows
    have written : w.setTable key { view := v, keepSelection := o.keepSelection } =
        w.modifyTable key fun _ => { view := v, keepSelection := o.keepSelection } := rfl
    rw [written]
    apply Shift.weaves key
    refine .move (fun tasks => ?_) (only_modifyTable _)
    rw [strand_modifyTable]
    exact .opened unused v bare numbered o.keepSelection unselected faithful (startingView_sound made)
      (startingView_proper made)

-- All that was ever done weaves on from where there were no tables.
theorem Reached.woven {w : Application} (reached : Reached w) :
    ∃ workspace modes, Weaves { workspace, modes } w := by
  induction reached with
  | start workspace modes => exact ⟨workspace, modes, .refl _⟩
  | opened before fresh o ih =>
    obtain ⟨workspace, modes, woven⟩ := ih
    exact ⟨workspace, modes, woven.trans (openTable_weaves fresh o)⟩
  | stepped before depth s ih =>
    obtain ⟨workspace, modes, woven⟩ := ih
    exact ⟨workspace, modes, woven.trans (runTo_keeps depth s _)⟩

-- At rest nothing is left to be done on any strand.
theorem Reached.path {w : Application} (reached : Reached w) (key : Nat) :
    Path key {} (w.strand [] key) := by
  obtain ⟨workspace, modes, woven⟩ := reached.woven
  exact woven.paths key []

end Runs

end PagedTable.Application
