import PagedTable.Proofs.LatestRequest
import PagedTable.Proofs.PageSelection
import PagedTable.Proofs.RequestQueries
import PagedTable.Proofs.Scene

namespace PagedTable

-- An outcome that holds no page of at most the given size, with the fault that it stands for.
inductive Outcome.Fails (size : Number) (o : Outcome) : Fault → Prop where
  | fault (raised : o.error = some e) : o.Fails size e
  | noPage (calm : o.error = none) (other : ∀ p, o.result ≠ .page p) :
      o.Fails size (.failure (Application.notAPage o.result.kindName))
  | oversize (calm : o.error = none) (page : o.result = .page p) (large : p.fits size = false) :
      o.Fails size (.failure (Application.tooManyRows p.rows.length size))

def TableView.vacated (v : TableView) : TableView := { v with rows := [], total := 0, selected := [] }

def Request.failed (f : Failure) (q : Request (Callback Step) Bool) : Request (Callback Step) Bool :=
  Request.closed { q with error := some (.failure f) } .failed

namespace Scene

-- The rows are gone, and with them the selection if there was one.
def vacating (key : Nat) (v : TableView) : List Event :=
  .signal key (.pageLoaded 0) :: if v.selected.isEmpty then [] else [.signal key .selectionChanged]

def vacate (key : Nat) (s : Scene) : Scene :=
  (s.setView key (s.tables key).view.vacated).hear (vacating key (s.tables key).view)

end Scene

namespace Application

theorem fails_iff {size : Number} {o : Outcome} {e : Fault} :
    o.Fails size e ↔ deliveredPage size o = .error e := by
  unfold deliveredPage
  constructor
  · intro fails
    cases fails with
    | fault raised => rw [raised]
    | noPage calm other =>
      rw [calm]
      dsimp only
      split
      · rename_i p page
        exact absurd page (other p)
      · rfl
    | oversize calm page large =>
      rw [calm, page]
      simp [large]
  · intro failed
    split at failed
    · rename_i raised
      cases failed
      exact .fault raised
    · rename_i calm
      split at failed
      · rename_i p page
        split at failed
        · cases failed
        · rename_i large
          cases failed
          exact .oversize calm page (Bool.eq_false_iff.mpr large)
      · rename_i other
        cases failed
        exact .noPage calm other

variable {run : Run} {w : Application} {key r : Nat} {q : Request (Callback Step) Bool}

section Operations

variable (observing : Observing run)

include observing

theorem failing_scene (token : Int) (f : Failure) (found : (w.table key).book.request? r = some q)
    (live : q.isDone = false) :
    ∃ w', (failing run key r token f).outcome w = (.ok (), w') ∧
      w'.scene = (((w.scene.recount key).hear [.signal key (.requestError token f.message)]).hear
        ((w.workspace.handleFailure (.failure f) none none []).1.map .notice).reverse).finish key r q
          (Request.failed f) := by
  let counted := emit run key (.requestError token f.message) (updateBusy run key w)
  have before : counted.scene =
      (w.scene.recount key).hear [.signal key (.requestError token f.message)] := by
    unfold counted
    rw [scene_emit observing, scene_updateBusy observing]
  have shared : counted.workspace = w.workspace := congrArg Scene.workspace before
  obtain ⟨told, reported, after⟩ := report_scene (.failure f) counted
  have still : (told.table key).book.request? r = some q := by
    have same : told.table key = { w.table key with busy := isWaiting (w.table key) } := by
      change told.scene.tables key = _
      rw [after, before]
      exact Scene.table_recount ..
    rw [same]
    exact found
  refine ⟨(host run key).fail r (.failure f) told, ?_, ?_⟩
  · unfold failing
    rw [Act.outcome_change_bind, Act.outcome_change_bind, Act.outcome_bind_ok reported]
    rfl
  · refine (scene_finish observing told .failed _ still live).trans ?_
    rw [after, before, shared]
    rfl

theorem pageFailed_scene (token : Int) (fault : Fault) (keep : Bool)
    (found : (w.table key).book.request? r = some q) (live : q.isDone = false) :
    let f := fault.toFailure
    let before := if isNotFound f then w.scene.vacate key else w.scene
    ∃ w', (pageFailed run key r token fault keep).outcome w = (.ok (), w') ∧
      w'.scene = (((before.recount key).hear [.signal key (.requestError token f.message)]).hear
        ((w.workspace.handleFailure (.failure f) none none []).1.map .notice).reverse).finish key r q
          (Request.failed f) := by
  intro f before
  rw [pageFailed_eq]
  by_cases gone : isNotFound f = true
  · have emptied := TableView.surviving_none { w.view key with rows := [], total := 0 } keep
    let marked := w.markReplaced key token Page.empty keep
    have unmarked : marked.scene = w.scene := scene_silent (w := w) rfl
    obtain ⟨shown, applied, scene⟩ := applyPage_shown observing marked Page.empty keep emptied
    let announced := emit run key (.pageLoaded Page.empty.total) shown
    have chosen : before = w.scene.vacate key := if_pos gone
    have vacated : announced.scene = before := by
      unfold announced
      rw [scene_emit observing, scene, unmarked, chosen, Scene.choose_none]
      rfl
    have known : (announced.table key).book.request? r = some q := by
      have same : announced.table key = before.tables key := congrFun (congrArg Scene.tables vacated) key
      rw [same, chosen]
      unfold Scene.vacate
      rw [Scene.table_hear, Scene.table_setView]
      exact found
    have quiet : announced.workspace = w.workspace := by
      have same : announced.workspace = before.workspace := congrArg Scene.workspace vacated
      rw [same, chosen]
      rfl
    obtain ⟨w', failed, after⟩ := failing_scene observing token f known live
    refine ⟨w', ?_, ?_⟩
    · rw [if_pos gone, Act.outcome_change_bind, Act.outcome_bind_ok applied, Act.outcome_change_bind]
      exact failed
    · rw [after, vacated, quiet]
  · have same : before = w.scene := if_neg gone
    rw [if_neg gone, same]
    exact failing_scene observing token f found live

end Operations

structure ReloadFailed (w w' : Application) (key : Nat) (token : Int) (r : Nat)
    (q : Request (Callback Step) Bool) (f : Failure) : Prop where
  ended : (w'.table key).book.request? r = some (q.failed f)
  view : w'.view key = if isNotFound f then (w.view key).vacated else w.view key
  others : ∀ k, k ≠ key → w'.table k = w.table k
  heard : w'.heard = Scene.calls (q.failed f) q.callbacks ++
    ((w.workspace.handleFailure (.failure f) none none []).1.map .notice).reverse ++
    .signal key (.requestError token f.message) ::
    (Scene.tellBusy key { w.table key with book := (w.table key).book.untrack token } ++
      (if isNotFound f then Scene.vacating key (w.view key) else []) ++ w.heard)

theorem taken_fails (observing : Observing run) (token : Int) (fault : Fault) (keep : Bool)
    (found : (w.table key).book.request? r = some q) (live : q.isDone = false) :
    ∃ w', (pageFailed run key r token fault keep).outcome
        (w.modifyBook key fun b => b.untrack token) = (.ok (), w') ∧
      ReloadFailed w w' key token r q fault.toFailure := by
  let taken := w.modifyBook key fun b => b.untrack token
  have known : (taken.table key).book.request? r = some q := by
    unfold taken
    rw [table_modifyBook]
    exact found
  obtain ⟨w', failed, scene⟩ := pageFailed_scene observing token fault keep known live
  have before : taken.scene = w.scene.modify key fun t => { t with book := t.book.untrack token } :=
    scene_modifyBook _
  have read : ((w.table key).book.untrack token).request? r = some q := found
  have shared : taken.workspace = w.workspace := rfl
  refine ⟨w', failed, ?_, ?_, fun k other => ?_, ?_⟩
  · rw [← tables_scene, scene, before]
    split <;> simp [Scene.finish, Scene.vacate, Scene.recount, Book.request?_modify, read]
  · change (w'.table key).view = _
    rw [← tables_scene, scene, before]
    split <;> (simp [Scene.finish, Scene.vacate, Scene.recount]; rfl)
  · rw [← tables_scene, scene, before]
    split <;> simp [Scene.finish, Scene.vacate, Scene.recount, Scene.setView, Scene.table_modify_other other]
  · rw [← heard_scene, scene, before, shared]
    split
    · simp [Scene.finish, Scene.vacate, Scene.recount]
      rfl
    · simp [Scene.finish, Scene.recount]

-- A failed reload leaves the page. Whatever comes for the current request of a table instead of a page
-- of at most the size that was asked for, and whatever the provider raises, the request ends with that
-- failure, one error under its token is announced, and the failure is reported once. What the table
-- shows stays as it is, and nothing is said of it, unless the failure says that it has vanished: then
-- there are neither rows nor a selection.
theorem failed_reload_keeps_page (observing : Observing run) {c : OpenCall} (arises : w.Arises c.key)
    (made : c ∈ w.calls) {token : Int} {keep : Bool} (purpose : c.purpose = .page token keep)
    (current : w.IsCurrent c.key token) :
    ∃ r q query, Entries.get? token (w.table c.key).book.inFlight = some r ∧
      (w.table c.key).book.request? r = some q ∧ q.status = .pending ∧ c.call = .list query ∧
      (∀ o fault, o.Fails query.pageSize fault → ∃ w',
        (completeCall run c o).outcome w = (.ok (), w') ∧
        ReloadFailed w w' c.key token r q fault.toFailure) ∧
      ∀ fault, ∃ w', (pageRaised run c.key token keep fault).outcome w = (.ok (), w') ∧
        ReloadFailed w w' c.key token r q fault.toFailure := by
  obtain ⟨r, found⟩ := Option.isSome_iff_exists.mp current.1
  obtain ⟨q, known, pending⟩ := arises.pending found
  have live : q.isDone = false := by simp [Request.isDone, pending, RequestStatus.isTerminal]
  obtain ⟨query, list, size⟩ := arises.querySize made purpose found
  have taken : (takeRequest run c.key token).outcome w =
      (.ok (some r), w.modifyBook c.key fun b => b.untrack token) := take_latest found current.2
  refine ⟨r, q, query, found, known, pending, list, fun o fault fails => ?_, fun fault => ?_⟩
  · obtain ⟨w', failed, reload⟩ := taken_fails observing token fault keep known live
    refine ⟨w', ?_, reload⟩
    unfold completeCall
    rw [purpose]
    dsimp only
    unfold pageLoaded
    rw [Act.outcome_bind_ok taken]
    dsimp only
    rw [Act.outcome_get_bind, querySize_untrack, size, fails_iff.mp fails]
    exact failed
  · obtain ⟨w', failed, reload⟩ := taken_fails observing token fault keep known live
    exact ⟨w', (Act.outcome_bind_ok taken).trans failed, reload⟩

-- A page is shown and its row selected; the next page is awaited.
def awaiting : Application :=
  (opened { plan := selectable.plan }).played 1
    [.table 0 .refresh, .complete 0 (.page [entity "a"] none), .table 0 (.select [.text "a"]),
      .table 0 .refresh]

theorem awaiting_fails :
    ∃ c keep, c ∈ awaiting.calls ∧ c.purpose = .page 1 keep ∧ awaiting.IsCurrent c.key 1 ∧
      (∃ w', (completeCall (runTo 0) c { error := some (.trouble (.run "down")) }).outcome awaiting =
        (.ok (), w') ∧ (w'.view 0).rows.length = 1 ∧ (w'.view 0).selected.length = 1) ∧
      ∃ w', (pageRaised (runTo 0) c.key 1 keep (.failure (.make .notFound "gone"))).outcome awaiting =
        (.ok (), w') ∧ (w'.view 0).rows = [] ∧ (w'.view 0).selected = [] := by
  obtain ⟨c, there⟩ : ∃ c, awaiting.calls[1]? = some c :=
    Option.isSome_iff_exists.mp (by decide +kernel)
  have made : c ∈ awaiting.calls := List.mem_of_getElem? there
  have asked : (awaiting.calls[1]?).map (fun c => (c.key, c.purpose.page?)) = some (0, some (1, true)) := by
    decide +kernel
  rw [there] at asked
  obtain ⟨key, paged⟩ : c.key = 0 ∧ c.purpose.page? = some (1, true) := by simpa using asked
  have purpose : c.purpose = .page 1 true := CallPurpose.page?_iff.mp paged
  have current : awaiting.IsCurrent c.key 1 := by
    rw [key]
    exact ⟨by decide +kernel, by decide +kernel⟩
  have reached : Reached awaiting := (opened_reached _).played 1 _
  obtain ⟨r, q, query, -, -, -, -, fails, raises⟩ :=
    failed_reload_keeps_page observing_none (reached.arises c.key) made purpose current
  obtain ⟨down, delivered, kept⟩ := fails { error := some (.trouble (.run "down")) } _ (.fault rfl)
  obtain ⟨gone, raised, lost⟩ := raises (.failure (.make .notFound "gone"))
  have same : down.view 0 = awaiting.view 0 := key ▸ kept.view
  have vacated : gone.view 0 = (awaiting.view 0).vacated := key ▸ lost.view
  refine ⟨c, true, made, purpose, current, ⟨down, delivered, ?_, ?_⟩, gone, raised, ?_, ?_⟩
  · rw [same]
    decide +kernel
  · rw [same]
    decide +kernel
  · rw [vacated]
    rfl
  · rw [vacated]
    rfl

end Application

end PagedTable
