import Mathlib.Logic.Function.Basic
import PagedTable.Proofs.Listening
import PagedTable.Proofs.Requests

namespace PagedTable

def Event.isHeard : Event → Bool
  | .notice _ | .signal _ _ | .callback _ _ => true
  | _ => false

structure Scene where
  workspace : Workspace
  tables : Nat → Table
  mutations : List Mutation
  asked : List OpenCall
  modes : ProviderModes
  heard : List Event

namespace Scene

def hear (events : List Event) (s : Scene) : Scene := { s with heard := events ++ s.heard }

def modify (key : Nat) (f : Table → Table) (s : Scene) : Scene :=
  { s with tables := Function.update s.tables key (f (s.tables key)) }

variable (s : Scene) (key : Nat) (events more : List Event) (f g : Table → Table)

@[simp] theorem hear_nil : s.hear [] = s := rfl

@[simp] theorem hear_hear : (s.hear events).hear more = s.hear (more ++ events) := by
  simp [hear]

@[simp] theorem modify_hear : (s.hear events).modify key f = (s.modify key f).hear events := rfl

@[simp] theorem modify_modify : (s.modify key f).modify key g = s.modify key fun t => g (f t) := by
  simp [modify]

theorem modify_same {s : Scene} {key : Nat} {f : Table → Table}
    (same : f (s.tables key) = s.tables key) : s.modify key f = s := by
  unfold modify
  rw [same, Function.update_eq_self]

@[simp] theorem table_modify : (s.modify key f).tables key = f (s.tables key) := by simp [modify]

theorem table_modify_other {key k : Nat} (other : k ≠ key) (f : Table → Table) (s : Scene) :
    (s.modify key f).tables k = s.tables k := by simp [modify, other]

@[simp] theorem table_hear : (s.hear events).tables = s.tables := rfl

@[simp] theorem workspace_hear : (s.hear events).workspace = s.workspace := rfl

@[simp] theorem workspace_modify : (s.modify key f).workspace = s.workspace := rfl

@[simp] theorem mutations_hear : (s.hear events).mutations = s.mutations := rfl

@[simp] theorem mutations_modify : (s.modify key f).mutations = s.mutations := rfl

@[simp] theorem heard_hear : (s.hear events).heard = events ++ s.heard := rfl

@[simp] theorem heard_modify : (s.modify key f).heard = s.heard := rfl

-- The busy state in line with what the table waits for, and what is heard of it.
def tellBusy (key : Nat) (t : Table) : List Event :=
  if Application.isWaiting t = t.busy then [] else [.signal key (.busyChanged (Application.isWaiting t))]

def recount (key : Nat) (s : Scene) : Scene :=
  (s.modify key fun t => { t with busy := Application.isWaiting t }).hear (tellBusy key (s.tables key))

@[simp] theorem table_recount : (s.recount key).tables key =
    { s.tables key with busy := Application.isWaiting (s.tables key) } := by simp [recount]

def calls (q : Request (Callback Step) Bool) (cs : List (Callback Step)) : List Event :=
  (cs.map fun c => .callback c.name q.summary).reverse

def finish (key r : Nat) (q : Request (Callback Step) Bool)
    (close : Request (Callback Step) Bool → Request (Callback Step) Bool) (s : Scene) : Scene :=
  (s.modify key fun t => { t with book := t.book.modify r close }).hear (calls (close q) q.callbacks)

def choose (key : Nat) (selected : List Value) (s : Scene) : Scene :=
  if Members.same selected (s.tables key).view.selected then s
  else (s.modify key fun t => { t with view := { t.view with selected } }).hear
    [.signal key .selectionChanged]

def setView (key : Nat) (v : TableView) : Scene → Scene := modify key fun t => { t with view := v }

@[simp] theorem table_setView (v : TableView) :
    (s.setView key v).tables key = { s.tables key with view := v } := by simp [setView]

theorem choose_shown (v : TableView) (selected : List Value) :
    let same := Members.same selected v.selected
    (s.setView key v).choose key selected =
      (s.setView key { v with selected := if same then v.selected else selected }).hear
        (if same then [] else [.signal key .selectionChanged]) := by
  intro same
  have seen : Members.same selected (((s.setView key v).tables key).view.selected) = same := by
    rw [table_setView]
  unfold choose
  rw [seen]
  cases same with
  | true => rfl
  | false => simp [setView]

theorem choose_none (v : TableView) : (s.setView key v).choose key [] =
    (s.setView key { v with selected := [] }).hear
      (if v.selected.isEmpty then [] else [.signal key .selectionChanged]) := by
  rw [choose_shown]
  cases chosen : v.selected <;> rfl

end Scene

namespace Application

-- The newest first.
def heard (w : Application) : List Event := w.journal.filter Event.isHeard

def scene (w : Application) : Scene where
  workspace := w.workspace
  tables := w.table
  mutations := w.mutations
  asked := w.calls
  modes := w.modes
  heard := w.heard

section Primitives

variable {key : Nat} {w : Application}

@[simp] theorem tables_scene : w.scene.tables key = w.table key := rfl

@[simp] theorem workspace_scene : w.scene.workspace = w.workspace := rfl

@[simp] theorem mutations_scene : w.scene.mutations = w.mutations := rfl

@[simp] theorem heard_scene : w.scene.heard = w.heard := rfl

theorem scene_record (e : Event) : (w.record e).scene = w.scene.hear ([e].filter Event.isHeard) := by
  unfold scene heard Scene.hear record
  cases heard : e.isHeard <;> simp [heard] <;> rfl

theorem scene_silent {e : Event} (silent : e.isHeard = false) : (w.record e).scene = w.scene := by
  simp [scene_record, silent]

theorem scene_recordAll (events : List Event) :
    (w.recordAll events).scene = w.scene.hear (events.filter Event.isHeard).reverse := by
  rw [recordAll_eq]
  unfold scene heard Scene.hear
  simp [List.filter_reverse]
  rfl

theorem scene_notices (ns : List Notice) :
    (w.notices ns).scene = w.scene.hear (ns.map .notice).reverse := by
  have all : (ns.map Event.notice).filter Event.isHeard = ns.map .notice := by
    refine List.filter_eq_self.mpr fun e member => ?_
    obtain ⟨n, -, rfl⟩ := List.mem_map.mp member
    rfl
  unfold notices
  rw [scene_recordAll, all]

theorem report_scene (fault : Fault) (w : Application) :
    ∃ w', (report fault none none).outcome w = (.ok fault.toFailure, w') ∧ w'.scene =
      w.scene.hear ((w.workspace.handleFailure fault none none []).1.map .notice).reverse := by
  obtain ⟨box, -, handled⟩ := w.workspace.handleFailure_plain fault none none
  refine ⟨w.notices (w.workspace.handleFailure fault none none []).1, ?_, scene_notices _⟩
  exact congrArg (·, _) (congrArg Prod.snd handled)

theorem scene_modifyTable (f : Table → Table) : (w.modifyTable key f).scene = w.scene.modify key f := by
  have tables : (w.modifyTable key f).table = Function.update w.table key (f (w.table key)) := by
    funext k
    by_cases same : k = key
    · subst same
      rw [table_modifyTable, Function.update_self]
    · rw [table_modifyTable_other same, Function.update_of_ne same]
  unfold scene Scene.modify
  rw [tables]
  rfl

theorem scene_modifyView (f : TableView → TableView) :
    (w.modifyView key f).scene = w.scene.modify key fun t => { t with view := f t.view } :=
  scene_modifyTable _

theorem scene_modifyBook (f : TableBook → TableBook) :
    (w.modifyBook key f).scene = w.scene.modify key fun t => { t with book := f t.book } :=
  scene_modifyTable _

theorem scene_shareBusy (busy : Bool) : (w.shareBusy key busy).scene = w.scene := by
  unfold shareBusy
  rw [scene_recordAll]
  have none : ∀ (events : List BusyEvent) (count : Nat),
      (events.map fun e => Event.shared e count).filter Event.isHeard = [] := by
    intro events count
    refine List.filter_eq_nil_iff.mpr fun e member => ?_
    obtain ⟨b, -, rfl⟩ := List.mem_map.mp member
    exact Bool.false_ne_true
  rw [none]
  rfl

end Primitives

variable {run : Run} {key : Nat}

section Operations

variable (observing : Observing run) (w : Application)

include observing

theorem scene_follow (steps : List Step) : (follow run steps w).scene = w.scene := by
  induction steps generalizing w with
  | nil => rfl
  | cons step rest ih =>
    refine (ih _).trans ((scene_silent rfl).trans ?_)
    exact congrArg scene (observing step w)

theorem scene_slots (slots : List Slot) :
    (slots.foldl (fun w s => follow run s.steps w) w).scene = w.scene := by
  induction slots generalizing w with
  | nil => rfl
  | cons slot rest ih => exact (ih _).trans (scene_follow observing w slot.steps)

theorem scene_emit (signal : Signal) :
    (emit run key signal w).scene = w.scene.hear [.signal key signal] := by
  have seen : ((w.record (.signal key signal)).sight key (.emitted signal)).scene =
      w.scene.hear [.signal key signal] := scene_record (w := w) (.signal key signal)
  have unplugged (x : Application) : (x.unplug key signal.name).scene = x.scene := rfl
  unfold emit
  rw [scene_slots observing, unplugged]
  split
  · exact (scene_silent rfl).trans seen
  · exact seen

theorem scene_updateBusy : (updateBusy run key w).scene = w.scene.recount key := by
  have marked : (w.record (.mark key .recounted)).scene = w.scene := scene_silent rfl
  unfold updateBusy Scene.recount Scene.tellBusy
  dsimp only
  split <;> rename_i waits
  · have still : (w.scene.modify key fun t => { t with busy := isWaiting t }) = w.scene := by
      apply Scene.modify_same
      change { w.table key with busy := isWaiting (w.table key) } = _
      rw [waits]
      rfl
    have none : isWaiting (w.scene.tables key) = (w.scene.tables key).busy := waits
    rw [if_pos none, marked]
    exact still.symm
  · have some : ¬ isWaiting (w.scene.tables key) = (w.scene.tables key).busy := waits
    rw [if_neg some, scene_emit observing, scene_shareBusy, scene_modifyTable, marked]
    rfl

theorem scene_setSelection (selected : List Value) :
    (setSelection run key selected w).scene = w.scene.choose key selected := by
  have seen : (w.scene.tables key).view.selected = (w.view key).selected := rfl
  unfold setSelection Scene.choose
  rw [seen]
  split
  · rfl
  · rw [scene_emit observing, scene_modifyView]

theorem scene_call (c : Callback Step) (r : Nat) {q : Request (Callback Step) Bool}
    (found : (w.table key).book.request? r = some q) :
    ((host run key).call r c w).scene = w.scene.hear [.callback c.name q.summary] := by
  change ((notify run key c r).after w).scene = _
  unfold notify
  rw [Act.after_get_bind, found]
  dsimp only
  rw [Act.after_change_bind, Act.after_change_bind, Act.after_change_bind]
  refine Eq.trans ?_ (scene_record (w := w) (.callback c.name q.summary))
  split <;> exact scene_follow observing _ c.steps

theorem scene_callAll (r : Nat) (cs : List (Callback Step)) {q : Request (Callback Step) Bool}
    (found : (w.table key).book.request? r = some q) :
    ((host run key).callAll r cs w).scene = w.scene.hear (Scene.calls q cs) := by
  induction cs generalizing w with
  | nil => rfl
  | cons c rest ih =>
    have called := scene_call observing w c r found
    have still : (((host run key).call r c w).table key).book.request? r = some q := by
      have tables := congrFun (congrArg Scene.tables called) key
      exact (congrArg (fun t : Table => t.book.request? r) tables).trans found
    refine (ih _ still).trans ?_
    rw [called, Scene.hear_hear]
    simp [Scene.calls]

theorem scene_finish {r : Nat} (status : RequestStatus)
    (f : Request (Callback Step) Bool → Request (Callback Step) Bool)
    {q : Request (Callback Step) Bool} (found : (w.table key).book.request? r = some q)
    (live : q.isDone = false) : ((host run key).finish r status f w).scene =
      w.scene.finish key r q fun q => (f q).closed status := by
  have known : ((host run key).read w).request? r = some q := found
  unfold Host.finish
  rw [known]
  dsimp only
  rw [live, if_neg Bool.false_ne_true, host_change]
  refine (scene_callAll observing _ r q.callbacks (q := (f q).closed status) ?_).trans ?_
  · rw [table_modifyBook]
    dsimp only
    rw [Book.request?_modify, found]
    rfl
  · rw [scene_modifyBook]
    rfl

theorem applyPage_shown (page : Page) (keep : Bool) {v : TableView} {selected : List Value}
    (survives : { w.view key with rows := page.rows, total := page.total }.surviving keep page.rows =
      (v, .ok selected)) :
    ∃ w', (applyPage run key page keep).outcome w = (.ok (), w') ∧
      w'.scene = (w.scene.setView key v).choose key selected := by
  let paged := w.modifyView key fun v => { v with rows := page.rows, total := page.total }
  let chosen := paged.modifyView key fun _ => v
  have read : (paged.view key).surviving keep page.rows = (v, .ok selected) := by
    unfold paged
    rw [view_modifyView]
    exact survives
  refine ⟨setSelection run key selected chosen, ?_, ?_⟩
  · unfold applyPage
    rw [Act.outcome_change_bind, Act.outcome_bind, outcome_onView, read]
    rfl
  · rw [scene_setSelection observing, scene_modifyView, scene_modifyView, Scene.modify_modify]
    rfl

end Operations

theorem applyPage_stopped (run : Run) (w : Application) (page : Page) (keep : Bool) {v : TableView} {e : Fault}
    (stops : { w.view key with rows := page.rows, total := page.total }.surviving keep page.rows =
      (v, .error e)) :
    ∃ w', (applyPage run key page keep).outcome w = (.error e, w') ∧
      w'.scene = w.scene.setView key v := by
  let paged := w.modifyView key fun v => { v with rows := page.rows, total := page.total }
  have read : (paged.view key).surviving keep page.rows = (v, .error e) := by
    unfold paged
    rw [view_modifyView]
    exact stops
  refine ⟨paged.modifyView key fun _ => v, ?_, ?_⟩
  · unfold applyPage
    rw [Act.outcome_change_bind, Act.outcome_bind, outcome_onView, read]
  · rw [scene_modifyView, scene_modifyView, Scene.modify_modify]
    rfl

end Application

end PagedTable
