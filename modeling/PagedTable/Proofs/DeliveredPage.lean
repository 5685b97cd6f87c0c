import PagedTable.Proofs.BusyState
import PagedTable.Proofs.LatestRequest
import PagedTable.Proofs.LegiblePages
import PagedTable.Proofs.RequestQueries
import PagedTable.Proofs.Scene

namespace PagedTable

def Request.answered (page : Page) (q : Request (Callback Step) Bool) : Request (Callback Step) Bool :=
  Request.closed { q with page := some page } .done

def TableView.choosing (selected : List Value) (v : TableView) : TableView :=
  { v with selected := if Members.same selected v.selected then v.selected else selected }

namespace Table

def shows (t : Table) (token : Int) (v : TableView) : Table :=
  { t with book := t.book.untrack token, view := v }

def answered (t : Table) (r : Nat) (page : Page) : Table :=
  { t with book := t.book.modify r (Request.answered page), busy := Application.isWaiting t }

end Table

namespace Application
open Strand

variable {run : Run} {w : Application} {key r : Nat} {token : Int} {keep : Bool} {o : Outcome}
  {page : Page} {q : Request (Callback Step) Bool} {v : TableView}

-- The outcome has been taken, and the rows are about to be replaced.
def replacing (key : Nat) (token : Int) (page : Page) (keep : Bool) (w : Application) : Application :=
  (w.modifyBook key fun b => b.untrack token).markReplaced key token page keep

theorem view_replacing : (w.replacing key token page keep).view key = w.view key :=
  view_modifyBook (fun b => b.untrack token) w key

theorem scene_replacing : (w.replacing key token page keep).scene =
    w.scene.modify key fun t => { t with book := t.book.untrack token } :=
  (scene_silent (w := w.modifyBook key fun b => b.untrack token) rfl).trans (scene_modifyBook _)

theorem loading_outcome (found : Entries.get? token (w.table key).book.inFlight = some r)
    (latest : token = (w.table key).book.latest)
    (delivered : deliveredPage (w.querySize key r) o = .ok page) :
    (pageLoaded run key token keep o).outcome w = (do
      (applyPage run key page keep).onFault (noteStopped key .unshown)
      Act.change (updateBusy run key)
      Act.change (emit run key (.pageLoaded page.total))
      Act.change (emit run key (.requestCompleted token))
      Act.change ((host run key).resolve r page) : Act Application Unit).outcome
        (w.replacing key token page keep) := by
  unfold pageLoaded
  rw [Act.outcome_bind_ok (take_latest found latest)]
  dsimp only
  rw [Act.outcome_get_bind, querySize_untrack, delivered]
  rfl

theorem pageLoaded_shown (observing : Observing run)
    (found : Entries.get? token (w.table key).book.inFlight = some r)
    (latest : token = (w.table key).book.latest)
    (known : (w.table key).book.request? r = some q) (live : q.isDone = false)
    (delivered : deliveredPage (w.querySize key r) o = .ok page) {selected : List Value}
    (survives : { w.view key with rows := page.rows, total := page.total }.surviving keep page.rows =
      (v, .ok selected)) :
    ∃ w', (pageLoaded run key token keep o).outcome w = (.ok (), w') ∧ w'.mutations = w.mutations ∧
      w'.table key = ((w.table key).shows token (v.choosing selected)).answered r page := by
  let replaced := w.replacing key token page keep
  have view : replaced.view key = w.view key := view_replacing
  rw [← view] at survives
  obtain ⟨shown, applied, scene⟩ := applyPage_shown observing replaced page keep survives
  let announced := emit run key (.requestCompleted token)
    (emit run key (.pageLoaded page.total) (updateBusy run key shown))
  have after : announced.scene =
      ((((((w.scene.modify key fun t => { t with book := t.book.untrack token }).setView key v).choose key
        selected).recount key).hear [.signal key (.pageLoaded page.total)]).hear
        [.signal key (.requestCompleted token)]) := by
    unfold announced
    rw [scene_emit observing, scene_emit observing, scene_updateBusy observing, scene, scene_replacing]
  have still : (announced.table key).book.request? r = some q := by
    have read : ((w.table key).book.untrack token).request? r = some q := known
    rw [← tables_scene, after, Scene.choose_shown]
    simp [read]
  have finished := scene_finish observing announced .done (fun q => { q with page := some page }) still live
  rw [after, Scene.choose_shown] at finished
  refine ⟨(host run key).resolve r page announced, ?_, ?_, ?_⟩
  · rw [loading_outcome found latest delivered, Act.outcome_bind_ok (Act.outcome_onFault_ok applied)]
    rfl
  · exact congrArg Scene.mutations finished
  · have table := congrFun (congrArg Scene.tables finished) key
    refine Eq.trans table ?_
    simp [Scene.finish]
    rfl

theorem pageLoaded_stopped (run : Run)
    (found : Entries.get? token (w.table key).book.inFlight = some r)
    (latest : token = (w.table key).book.latest)
    (delivered : deliveredPage (w.querySize key r) o = .ok page) {e : Fault}
    (stops : { w.view key with rows := page.rows, total := page.total }.surviving keep page.rows =
      (v, .error e)) :
    ∃ w', (pageLoaded run key token keep o).outcome w = (.error e, w') ∧
      w'.table key = (w.table key).shows token v := by
  let replaced := w.replacing key token page keep
  have view : replaced.view key = w.view key := view_replacing
  rw [← view] at stops
  obtain ⟨stopped, applied, scene⟩ := applyPage_stopped run replaced page keep stops
  refine ⟨stopped.noteStopped key .unshown, ?_, ?_⟩
  · rw [loading_outcome found latest delivered, Act.outcome_bind, Act.outcome_onFault_error applied]
  · have table : (stopped.noteStopped key .unshown).table key = stopped.scene.tables key := rfl
    rw [table, scene, scene_replacing]
    simp [Table.shows]

-- A request that is done with its page: the table shows it, only what is on it is selected, nothing is
-- in flight, and the table is busy for no more than mutations.
structure Settled (w : Application) (key r : Nat) (page : Page) : Prop where
  request : ((w.table key).book.request? r).map (fun q => (q.status, q.page)) = some (.done, some page)
  rows : (w.view key).rows = page.rows
  total : (w.view key).total = page.total
  selected : ∀ id ∈ (w.view key).selected,
    ∃ row ∈ page.rows, ∃ own, ((w.view key).rowId row).2 = .ok own ∧ own.same id = true
  idle : (w.table key).book.inFlight = []
  calm : (w.table key).busy = true → 0 < w.undone key

theorem choosing_on_page {paged : TableView} (real : paged.Real) {selected : List Value}
    (survives : paged.surviving keep page.rows = (v, .ok selected)) :
    ∀ id ∈ (v.choosing selected).selected, ∃ row ∈ page.rows, ∃ own,
      ((v.choosing selected).rowId row).2 = .ok own ∧ own.same id = true := by
  have described := TableView.surviving_described paged keep page.rows
  have before : v.selected = paged.selected := by
    have steady := described.steady.selected
    rwa [survives] at steady
  have same (row : Value) : ((v.choosing selected).rowId row).2 = (paged.rowId row).2 := by
    have read : (v.choosing selected).describe.2 = paged.describe.2 := by
      have shown : (v.choosing selected).describe.2 = v.describe.2 := TableView.describe_same rfl
      rw [survives] at described
      rw [shown]
      rcases described with rfl | rfl
      · rfl
      · exact paged.describe_twice
    rw [TableView.rowId_read, TableView.rowId_read, read]
  intro id member
  simp only [same]
  cases keep with
  | false =>
    cases survives
    unfold TableView.choosing at member
    cases chosen : v.selected <;> simp [chosen, Members.same] at member
  | true =>
    have legible := (TableView.surviving_iff.mp (congrArg Prod.snd survives)).1
    refine legible.chosen real (congrArg Prod.snd survives) ?_
    rw [← before]
    exact member

theorem settled_iff_idle {w' : Application} {selected : List Value}
    (table : w'.table key = ((w.table key).shows token (v.choosing selected)).answered r page)
    (mutations : w'.mutations = w.mutations) (known : (w.table key).book.request? r = some q)
    (rows : v.rows = page.rows ∧ v.total = page.total)
    (chosen : ∀ id ∈ (v.choosing selected).selected, ∃ row ∈ page.rows, ∃ own,
      ((v.choosing selected).rowId row).2 = .ok own ∧ own.same id = true)
    (counted : (w.table key).closed = false → (w.table key).pending = w.undone key) :
    Settled w' key r page ↔ ∀ e ∈ (w.table key).book.inFlight, e.1 = token := by
  have view : w'.view key = v.choosing selected := congrArg Table.view table
  have flying : (w'.table key).book.inFlight = Entries.erase token (w.table key).book.inFlight := by
    rw [table]
    rfl
  have none : (w'.table key).book.inFlight = [] ↔ ∀ e ∈ (w.table key).book.inFlight, e.1 = token := by
    rw [flying]
    simp [Entries.erase, List.filter_eq_nil_iff]
  refine ⟨fun settled => none.mp settled.idle, fun alone => ?_⟩
  have idle := none.mpr alone
  refine ⟨?_, ?_, ?_, ?_, idle, fun busy => ?_⟩
  · rw [table]
    change ((((w.table key).book.untrack token).modify r _).request? r).map _ = _
    rw [Book.request?_modify]
    change (((w.table key).book.request? r).map _).map _ = _
    rw [known]
    rfl
  · rw [view]
    exact rows.1
  · rw [view]
    exact rows.2
  · rw [view]
    exact chosen
  · have waits : (!(w.table key).closed && (((w.table key).book.untrack token).hasPending ||
        decide (0 < (w.table key).pending))) = true := by
      rw [table] at busy
      exact busy
    have grounded : ((w.table key).book.untrack token).hasPending = false := by
      rw [table] at idle
      have gone : ((w.table key).book.untrack token).inFlight = [] := idle
      simp [Book.hasPending, gone]
    obtain ⟨opened, pending⟩ : (w.table key).closed = false ∧ 0 < (w.table key).pending := by
      simpa [grounded] using waits
    unfold undone
    rw [mutations, ← undone, ← counted opened]
    exact pending

-- A page that is delivered for the current request of a table, and has at most as many rows as were
-- asked for, is shown in any case. The request is settled exactly if, where the selection is to be kept,
-- the identities of the rows can be read and may be members of sets, and nothing else is in flight. Where
-- the identities fall short, the delivery stops: the request stays pending and the busy state as it was.
theorem delivered_page_settles_iff (observing : Observing run) {c : OpenCall} (arises : w.Arises c.key)
    (made : c ∈ w.calls) (purpose : c.purpose = .page token keep) (current : w.IsCurrent c.key token) :
    ∃ r q query, Entries.get? token (w.table c.key).book.inFlight = some r ∧
      (w.table c.key).book.request? r = some q ∧ q.status = .pending ∧ c.call = .list query ∧
      ∀ page : Page, page.fits query.pageSize = true → ∃ ended w',
        (completeCall run c { result := .page page }).outcome w = (ended, w') ∧
        (w'.view c.key).rows = page.rows ∧ (w'.view c.key).total = page.total ∧
        (Settled w' c.key r page ↔ (keep = true → (w.view c.key).Legible page.rows) ∧
          ∀ e ∈ (w.table c.key).book.inFlight, e.1 = token) ∧
        (keep = true → ¬ (w.view c.key).Legible page.rows → (∃ e, ended = .error e) ∧
          (w'.table c.key).book.request? r = some q ∧
          (w'.table c.key).busy = (w.table c.key).busy) := by
  obtain ⟨r, found⟩ := Option.isSome_iff_exists.mp current.1
  obtain ⟨q, known, pending⟩ := arises.pending found
  have live : q.isDone = false := by simp [Request.isDone, pending, RequestStatus.isTerminal]
  obtain ⟨query, list, size⟩ := arises.querySize made purpose found
  refine ⟨r, q, query, found, known, pending, list, fun page fits => ?_⟩
  have delivered : deliveredPage (w.querySize c.key r) { result := .page page } = .ok page := by
    rw [size]
    simp [deliveredPage, fits]
  have loading : completeCall run c { result := .page page } =
      pageLoaded run c.key token keep { result := .page page } := by
    unfold completeCall
    rw [purpose]
  rw [loading]
  let paged : TableView := { w.view c.key with rows := page.rows, total := page.total }
  have legible : paged.Legible page.rows ↔ (w.view c.key).Legible page.rows :=
    TableView.legible_same (TableView.describe_same rfl)
  have steady := (TableView.surviving_described paged keep page.rows).steady
  rcases survives : paged.surviving keep page.rows with ⟨v, e | selected⟩
  · rw [survives] at steady
    -- the identities fall short, so the request is left pending and cannot be settled
    obtain ⟨kept, illegible⟩ := TableView.surviving_error (congrArg Prod.snd survives)
    rw [legible] at illegible
    obtain ⟨w', stopped, table⟩ := pageLoaded_stopped run found current.2 delivered survives
    have view : w'.view c.key = v := congrArg Table.view table
    have still : (w'.table c.key).book.request? r = some q := by
      rw [table]
      exact known
    refine ⟨_, w', stopped, ?_, ?_, ?_, fun _ _ => ⟨⟨e, rfl⟩, still, ?_⟩⟩
    · rw [view, steady.rows.1]
    · rw [view, steady.rows.2]
    · refine ⟨fun settled => ?_, fun readable => absurd (readable.1 kept) illegible⟩
      have done := settled.request
      simp [still, pending] at done
    · rw [table]
      rfl
  · rw [survives] at steady
    -- the request is done, and what else is in flight decides if the table is at rest
    obtain ⟨w', shown, mutations, table⟩ :=
      pageLoaded_shown observing found current.2 known live delivered survives
    have view : w'.view c.key = v.choosing selected := congrArg Table.view table
    have readable (kept : keep = true) : paged.Legible page.rows := by
      subst kept
      exact (TableView.surviving_iff.mp (congrArg Prod.snd survives)).1
    refine ⟨_, w', shown, ?_, ?_, ?_, fun kept illegible => absurd (legible.mp (readable kept)) illegible⟩
    · rw [view]
      exact steady.rows.1
    · rw [view]
      exact steady.rows.2
    · obtain ⟨tasks, path⟩ := arises
      have real : paged.Real := Path.real path
      have counted := (Path.counted path).pending
      rw [settled_iff_idle table mutations known steady.rows (choosing_on_page real survives) counted]
      exact ⟨fun alone => ⟨fun kept => legible.mp (readable kept), alone⟩, And.right⟩

def expecting : Application := (opened { plan := {} }).played 1 [.table 0 .refresh]

theorem expecting_reached : Reached expecting := (opened_reached _).played 1 _

theorem expecting_current : expecting.IsCurrent 0 0 := ⟨by decide +kernel, by decide +kernel⟩

def single : Page where
  rows := [entity "a"]
  total := 1

-- The identity of the row is a list in which there is a list.
def tangled : Page where
  rows := [.map [("id", .list [.text "a", .list [.text "b"]])]]
  total := 1

-- The one page settles the request, the other does not.
theorem expecting_settles :
    ∃ c r, c ∈ expecting.calls ∧ expecting.IsCurrent c.key 0 ∧
      (∃ ended w', (completeCall (runTo 0) c { result := .page single }).outcome expecting = (ended, w') ∧
        Settled w' c.key r single) ∧
      ∃ e w', (completeCall (runTo 0) c { result := .page tangled }).outcome expecting = (.error e, w') ∧
        ¬ Settled w' c.key r tangled := by
  obtain ⟨c, there⟩ : ∃ c, expecting.calls[0]? = some c :=
    Option.isSome_iff_exists.mp (by decide +kernel)
  have made : c ∈ expecting.calls := List.mem_of_getElem? there
  have asked : (expecting.calls[0]?).map
      (fun c => (c.key, c.purpose.page?, c.call.query?.map fun q => q.pageSize)) =
        some (0, some (0, true), some 50) := by decide +kernel
  rw [there] at asked
  obtain ⟨key, paged, size⟩ : c.key = 0 ∧ c.purpose.page? = some (0, true) ∧
      c.call.query?.map (fun q => q.pageSize) = some 50 := by simpa using asked
  have purpose : c.purpose = .page 0 true := CallPurpose.page?_iff.mp paged
  have current : expecting.IsCurrent c.key 0 := by
    rw [key]
    exact expecting_current
  have alone : ∀ e ∈ (expecting.table c.key).book.inFlight, e.1 = 0 := by
    rw [key]
    decide +kernel
  obtain ⟨r, q, query, -, -, -, list, settles⟩ :=
    delivered_page_settles_iff observing_none (expecting_reached.arises c.key) made purpose current
  have fifty : query.pageSize = 50 := by
    rw [list] at size
    exact Option.some.inj size
  refine ⟨c, r, made, current, ?_, ?_⟩
  · obtain ⟨ended, w', delivered, -, -, settled, -⟩ := settles single (by rw [fifty]; decide +kernel)
    refine ⟨ended, w', delivered, settled.mpr ⟨fun _ => ?_, alone⟩⟩
    rw [key]
    decide +kernel
  · obtain ⟨ended, w', delivered, -, -, settled, stops⟩ := settles tangled (by rw [fifty]; decide +kernel)
    have illegible : ¬ (expecting.view c.key).Legible tangled.rows := by
      rw [key]
      decide +kernel
    obtain ⟨⟨e, rfl⟩, -⟩ := stops rfl illegible
    exact ⟨e, w', delivered, fun done => illegible ((settled.mp done).1 rfl)⟩

-- The page comes, and is no more than was asked for.
def spoilt : Application := expecting.played 1 [.complete 0 (.page tangled.rows none)]

-- The table shows it and waits for nothing, but the request is pending and the table busy.
theorem spoilt_unsettled :
    Reached expecting ∧ expecting.IsCurrent 0 0 ∧ tangled.fits 50 = true ∧
      (spoilt.view 0).rows.length = 1 ∧ (spoilt.table 0).book.statusOf 0 = some .pending ∧
      (spoilt.table 0).book.inFlight = [] ∧ (spoilt.table 0).busy = true ∧ spoilt.undone 0 = 0 ∧
      ¬ Settled spoilt 0 0 tangled := by
  have busy : (spoilt.table 0).busy = true := by decide +kernel
  have undone : spoilt.undone 0 = 0 := by decide +kernel
  refine ⟨expecting_reached, expecting_current, by decide +kernel, by decide +kernel, by decide +kernel,
    by decide +kernel, busy, undone, fun settled => ?_⟩
  have some := settled.calm busy
  rw [undone] at some
  exact absurd some (Nat.lt_irrefl 0)

end Application

end PagedTable
