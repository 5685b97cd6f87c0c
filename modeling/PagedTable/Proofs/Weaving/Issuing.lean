import PagedTable.Proofs.Weaving.Loading

namespace PagedTable.Application
open Strand

variable {run : Run} {key : Nat}

section Calling

-- What is delivered at once weaves on if deliveries do, in every state with a property that stays.
theorem answerAtOnce_weaves {P : Application → Prop} {complete : Outcome → Act Application Unit}
    (stays : ∀ {w w'}, P w → Weaves w w' → P w')
    (delivered : ∀ o w, P w → Weaves w ((complete o).after w)) (raises : Option Fault)
    (deliveries : List Delivery) {w : Application} (holds : P w) :
    Weaves w ((answerAtOnce complete raises deliveries).after w) := by
  induction deliveries generalizing w with
  | nil => cases raises <;> exact .refl w
  | cons d rest ih =>
    unfold answerAtOnce
    rw [Act.after_result_bind]
    cases d.outcome with
    | error e => exact .refl w
    | ok o =>
      have first : Weaves w ((complete o).after w) := delivered o w holds
      dsimp only
      rw [Act.after_bind]
      rw [Act.after_eq] at first
      generalize (complete o).outcome w = reached at first
      obtain ⟨e | ⟨⟩, x⟩ := reached
      · exact first
      · exact first.trans (ih (stays holds first))

def called (c : OpenCall) (w : Application) : Application :=
  let recorded := (w.sight c.key (.asked c.purpose.errand c.call)).record (.call c.key c.call)
  { recorded with calls := recorded.calls ++ [c] }

theorem strand_called (c : OpenCall) (w : Application) (tasks : List Task) :
    (w.called c).strand tasks c.key = (w.strand tasks c.key).withCall c := by
  let recorded := (w.sight c.key (.asked c.purpose.errand c.call)).record (.call c.key c.call)
  have added : (w.called c).strand tasks c.key = { recorded.strand tasks c.key with
      calls := (recorded.strand tasks c.key).calls ++ [c] } := by
    simp [called, recorded, strand]
    exact ⟨rfl, rfl⟩
  rw [added, strand_record rfl, strand_sight]
  rfl

theorem only_called (c : OpenCall) (w : Application) : Only c.key w (w.called c) := by
  refine (only_sight (.asked c.purpose.errand c.call)).trans ⟨fun k other tasks => ?_, rfl⟩
  have foreign : c.key ≠ k := Ne.symm other
  simp [strand, called, record, Event.key?, foreign]
  exact ⟨rfl, rfl⟩

theorem callProvider_weaves {P : Application → Prop} {complete : Outcome → Act Application Unit}
    (stays : ∀ {w w'}, P w → Weaves w w' → P w')
    (delivered : ∀ o w, P w → Weaves w ((complete o).after w)) (c : OpenCall) {w : Application}
    (holds : P (w.called c)) :
    Weaves (w.called c) ((callProvider c.key c.call c.purpose complete).after w) := by
  unfold callProvider
  simp only [Act.after_change_bind, Act.after_get_bind]
  exact answerAtOnce_weaves stays delivered _ _ holds

end Calling

section Issuing

theorem isAsked_called (query : Query) (token : Int) (keep : Bool) (w : Application) :
    IsAsked (w.called { key, purpose := .page token keep, call := .list query }) key token :=
  ⟨_, List.mem_append_right _ (List.mem_singleton_self _), rfl, keep, rfl⟩

theorem tokenOf_eq (w : Application) (r : Nat) : w.tokenOf key r = (w.table key).book.tokenOf r := by
  unfold tokenOf Book.tokenOf
  cases (w.table key).book.request? r <;> rfl

-- A request was given its token while the table did not lack a parent.
def IsIssued (w : Application) (key : Nat) (token : Int) : Prop :=
  ∃ g ∈ (w.strand [] key).sights, g.occasion = .began (.page token) ∧
    needsParent g.table.view = false

theorem join_shift {query : Query} {token : Int} (r : Nat) {w : Application}
    (built : (w.view key).query = .ok query) (issued : IsIssued w key token) :
    let tracked := w.modifyBook key fun b => b.track token r
    let own := tracked.tokenOf key r
    Shift key [.adding token r, .counting] [.counting, .asking own query] w
      ((tracked.record (.mark key (.queryBuilt own))).modifyBook key fun b =>
        b.modify r fun q => { q with query := some query }) := by
  intro tracked own
  have marked : Only key tracked (tracked.record (.mark key (.queryBuilt own))) := only_record rfl
  refine .move (fun tasks => ?_) ((only_modifyBook _ w).trans (marked.trans (only_modifyBook _ _)))
  have move : Move key _ _ :=
    .join (s := w.strand (.adding token r :: .counting :: tasks) key) rfl built issued
  have same : own = (w.table key).book.tokenOf r := by
    unfold own
    rw [tokenOf_eq, table_modifyBook]
    rfl
  rw [strand_modifyBook, strand_record rfl, strand_modifyBook, same]
  exact move

theorem refuse_shift {e : Fault} (token : Int) (r : Nat) (w : Application)
    (unbuilt : (w.view key).query = .error e) :
    Shift key [.adding token r, .counting] [] w
      ((w.modifyBook key fun b => b.track token r).noteUnasked key r) := by
  let tracked := w.modifyBook key fun b => b.track token r
  let spared := tracked.spare key r
  have own : tracked.tokenOf key r = (w.table key).book.tokenOf r := by
    rw [tokenOf_eq, table_modifyBook]
    rfl
  have seen : Only key tracked spared := only_sight _
  have noted : Only key spared (spared.noteStopped key .unasked) := only_record rfl
  refine .move (fun tasks => ?_) ((only_modifyBook _ w).trans (seen.trans noted))
  have move : Move key _ _ :=
    .refuse (s := w.strand (.adding token r :: .counting :: tasks) key) rfl unbuilt
  have table : spared.table key = tracked.table key := rfl
  unfold noteUnasked noteStopped noteLapse
  rw [strand_record rfl, table, table_modifyBook]
  unfold spare
  rw [own, strand_sight, strand_modifyBook]
  exact move

def superseding (key r : Nat) (w : Application) : Application :=
  ((w.sight key (.began (.page (w.table key).book.nextToken))).modifyBook key fun b =>
    b.allot r).modifyBook key Book.untrackAll

theorem superseding_shift (r : Nat) {w : Application} (opened : (w.table key).closed = false) :
    Shift key [.holding r] ((w.table key).book.flying.map .holding ++
      [.adding (w.table key).book.nextToken r, .counting]) w (w.superseding key r) := by
  let seen := w.sight key (.began (.page (w.table key).book.nextToken))
  let allotted := seen.modifyBook key fun b => b.allot r
  have only : Only key w seen := only_sight _
  refine .move (fun tasks => ?_)
    ((only.trans (only_modifyBook _ seen)).trans (only_modifyBook _ allotted))
  have move : Move key _ _ := .supersede (s := w.strand (.holding r :: tasks) key) rfl opened
  unfold superseding
  rw [strand_modifyBook, strand_modifyBook, strand_sight, List.append_assoc]
  exact move

theorem supersede_eq (run : Run) (r : Nat) (w : Application) : supersede run key r false w =
    (host run key).discardEach (w.table key).book.flying (w.superseding key r) := by
  let seen := w.sight key (.began (.page (w.table key).book.nextToken))
  let allotted := seen.modifyBook key fun b => b.allot r
  have read : (host run key).read allotted = (w.table key).book.allot r := by
    change (allotted.table key).book = _
    rw [table_modifyBook]
    rfl
  change (host run key).discardAll allotted = _
  unfold Host.discardAll
  rw [read, host_change]
  rfl

theorem newRequest_keeps (keep : Option Bool) : Keeps (newRequest key keep) := by
  refine keeps_get_bind fun w => ?_
  dsimp only
  refine keeps_bind (keeps_change fun x => ?_) (fun _ => keeps_pure _) w
  apply Shift.weaves key
  refine .move (fun tasks => ?_) (only_modifyTable _)
  rw [strand_modifyTable]
  exact .create _

def stopping (key : Nat) (w : Application) : Application :=
  let stopped := (w.modifyTable key fun t => { t with closed := true }).record (.mark key .closed)
  (stopped.sight key .closing).modifyBook key Book.untrackAll

theorem stopping_shift {w : Application} (opened : (w.table key).closed = false) :
    Shift key [] ((w.table key).book.flying.map .holding ++ [.counting, .closing]) w
      (w.stopping key) := by
  let stopped := (w.modifyTable key fun t => { t with closed := true }).record (.mark key .closed)
  have only : Only key w stopped := (only_modifyTable _).trans (only_record rfl)
  have seen : Only key stopped (stopped.sight key .closing) := only_sight _
  refine .move (fun tasks => ?_) ((only.trans seen).trans (only_modifyBook _ _))
  have move : Move key _ _ := .close (s := w.strand tasks key) opened
  unfold stopping
  rw [strand_modifyBook, strand_sight, strand_record rfl, strand_modifyTable, List.append_assoc]
  exact move

theorem table_stopping (key : Nat) (w : Application) : (w.stopping key).table key =
    { w.table key with closed := true, book := (w.table key).book.untrackAll } := by
  let stopped := (w.modifyTable key fun t => { t with closed := true }).record (.mark key .closed)
  have closed : (stopped.sight key .closing).table key = { w.table key with closed := true } :=
    by simp only [stopped, table_sight, table_record, table_modifyTable]
  unfold stopping
  rw [table_modifyBook, closed]

theorem close_eq (run : Run) {w : Application} (opened : (w.table key).closed = false) :
    close run key w = updateBusy run key (((host run key).discardEach (w.table key).book.flying
      (w.stopping key)).modifyTable key fun t => { t with pending := 0 }) := by
  let stopped := (w.modifyTable key fun t => { t with closed := true }).record (.mark key .closed)
  have closed : (stopped.sight key .closing).table key = { w.table key with closed := true } :=
    by simp only [stopped, table_sight, table_record, table_modifyTable]
  have read : (host run key).read (stopped.sight key .closing) = (w.table key).book := by
    change ((stopped.sight key .closing).table key).book = _
    rw [closed]
  have discarded : (host run key).discardAll (stopped.sight key .closing) =
      (host run key).discardEach (w.table key).book.flying (w.stopping key) := by
    unfold Host.discardAll
    rw [read, host_change]
    rfl
  unfold close
  rw [if_neg (by simp [opened]), ← discarded]

variable (scripts : Scripts run)

include scripts

theorem askForPage_shift (token : Int) (query : Query) (keep : Bool) (w : Application) :
    Shift key [.asking token query] [] w ((askForPage run key token query keep).after w) := by
  let c : OpenCall := { key, purpose := .page token keep, call := .list query }
  have asking : Shift key [.asking token query] [] w (w.called c) := by
    refine .move (fun tasks => ?_) (only_called c w)
    rw [strand_called c]
    exact .ask rfl keep
  have asked : IsAsked (w.called c) key token := isAsked_called query token keep w
  have answered := callProvider_weaves (P := fun w => IsAsked w key token) IsAsked.later
    (fun o w asked => pageLoaded_weaves scripts asked keep o) c asked
  unfold askForPage
  rw [Act.after_attempt_bind]
  refine (asking.then answered).then ?_
  generalize ((callProvider _ _ _ _).outcome w).1 = outcome
  have asked := asked.later answered
  cases outcome with
  | ok => exact .refl _
  | error e =>
    exact pageRaised_weaves scripts asked keep e

theorem supersede_shift (r : Nat) {w : Application} (opened : (w.table key).closed = false) :
    Shift key [.holding r] [.adding (w.table key).book.nextToken r, .counting] w
      (supersede run key r false w) := by
  rw [supersede_eq]
  exact (superseding_shift r opened).trans
    ((discardEach_shift scripts key (w.table key).book.flying _).above _)

theorem supersede_issues (r : Nat) {w : Application} (bound : needsParent (w.view key) = false) :
    IsIssued (supersede run key r false w) key (w.table key).book.nextToken := by
  let seen := w.sight key (.began (.page (w.table key).book.nextToken))
  have dropped := discardEach_shift scripts key (w.table key).book.flying (w.superseding key r)
  obtain ⟨new, later⟩ := Path.sights (dropped.here [])
  have first : ((w.superseding key r).strand [] key).sights = (seen.strand [] key).sights := by
    unfold superseding
    rw [strand_modifyBook, strand_modifyBook]
    rfl
  rw [supersede_eq]
  let began : Sight :=
    ⟨key, .began (.page (w.table key).book.nextToken), w.table key, (w.strand [] key).marks⟩
  refine ⟨began, ?_, rfl, bound⟩
  change _ ∈ (((host run key).discardEach _ (w.superseding key r)).strand ([] ++ []) key).sights
  rw [later]
  refine List.mem_append_right _ ?_
  change _ ∈ ((w.superseding key r).strand [] key).sights
  rw [first, strand_sight]
  exact List.mem_cons_self

theorem issueEmpty_shift (r : Nat) (keep : Bool) {w : Application}
    (opened : (w.table key).closed = false) :
    Shift key [.holding r] [] w ((issueEmpty run key r keep).after w) := by
  unfold issueEmpty
  rw [Act.after_change_bind, Act.after_change_bind, Act.after_change_bind]
  refine (supersede_shift scripts r opened).trans ?_
  generalize supersede run key r false w = x
  let spared := x.spare key r
  let marked := spared.record (.mark key .emptied)
  let shown := marked.modifyView key fun v => v.shown Page.empty keep
  have emptied (token : Int) : Shift key [.adding token r, .counting] [.counting, .holding r] x shown := by
    have seen : Only key x spared := only_sight _
    have only : Only key spared marked := only_record rfl
    refine .move (fun tasks => ?_) ((seen.trans only).trans (only_modifyView _))
    have move : Move key _ _ :=
      .empty (s := x.strand (.adding token r :: .counting :: tasks) key) rfl keep
    unfold shown marked spared spare
    rw [strand_modifyView, strand_record rfl, tokenOf_eq, strand_sight]
    exact move
  have viewed : Viewed key ((marked.view key).shown Page.empty keep) marked shown :=
    .modify (fun v => v.shown Page.empty keep) marked
  obtain ⟨y, applied, woven⟩ := applyPage_empty scripts viewed
  rw [Act.after_bind, applied]
  simp only [Act.after_change_bind, Act.after_change]
  have counted := (updateBusy_shift scripts key y).above [.holding r]
  have emitted := emit_weaves scripts key (.pageLoaded Page.empty.total) rfl (updateBusy run key y)
  exact (((emptied _).then woven).trans (counted.then emitted)).trans (resolve_shift scripts r _ _)

theorem issueQuery_shift (r : Nat) (keep : Bool) {w : Application}
    (opened : (w.table key).closed = false) (bound : needsParent (w.view key) = false) :
    Shift key [.holding r] [] w ((issueQuery run key r keep).after w) := by
  let token : Int := (w.table key).book.nextToken
  let dropped := supersede run key r false w
  have superseded : Shift key [.holding r] [.adding token r, .counting] w dropped :=
    supersede_shift scripts r opened
  have issued : IsIssued dropped key token := supersede_issues scripts r bound
  let tracked := dropped.modifyBook key fun b => b.track token r
  have added : supersede run key r true w = tracked := rfl
  have view : tracked.view key = dropped.view key := by
    change (tracked.table key).view = (dropped.table key).view
    rw [table_modifyBook]
  unfold issueQuery
  rw [Act.after_change_bind, Act.after_get_bind, added, view, Act.after_bind]
  cases built : (dropped.view key).query with
  | error e =>
    rw [Act.outcome_onFault_error (Act.outcome_result _ _)]
    exact superseded.trans (refuse_shift token r dropped built)
  | ok query =>
    rw [Act.outcome_onFault_ok (Act.outcome_result _ _)]
    simp only [Act.after_get_bind, Act.after_change_bind]
    have joined := join_shift r built issued
    let own := tracked.tokenOf key r
    let x := (tracked.record (.mark key (.queryBuilt own))).modifyBook key fun b =>
        b.modify r fun q => { q with query := some query }
    have counted := (updateBusy_shift scripts key x).above [.asking own query]
    have emitted := emit_weaves scripts key (.requestIssued own) rfl (updateBusy run key x)
    refine (superseded.trans joined).trans ((counted.then emitted).trans ?_)
    exact askForPage_shift scripts own query keep _

theorem issue_shift (keep : Bool) (r : Nat) (w : Application) :
    Shift key [.holding r] [] w ((issue run key keep r).after w) := by
  unfold issue
  rw [Act.after_get_bind]
  dsimp only
  split
  · exact discard_shift scripts r w
  · rename_i opened
    have opened := Bool.eq_false_iff.mpr opened
    split
    · exact issueEmpty_shift scripts r keep opened
    · rename_i bound
      exact issueQuery_shift scripts r keep opened (Bool.eq_false_iff.mpr bound)

theorem register_weaves (key r : Nat) (callback : Option (Callback Step)) (w : Application) :
    Weaves w ((host run key).register r callback w) := by
  unfold Host.register
  cases callback with
  | none => exact .refl w
  | some c =>
    dsimp only
    split
    · exact notify_keeps scripts c r w
    · rw [host_change]
      apply Shift.weaves key
      refine .move (fun tasks => ?_) (only_modifyBook _ w)
      rw [strand_modifyBook]
      exact .register r c

theorem subscribe_keeps (r : Nat) (callback : Option (Callback Step)) :
    Keeps (subscribe run key r callback) := by
  intro w
  unfold subscribe Host.subscribe
  rw [Act.after_change_bind, Act.after_get_bind]
  refine (register_weaves scripts key r callback w).trans ?_
  generalize (host run key).register r callback w = x
  rw [host_read]
  split
  · exact .refl x
  · rename_i q found
    split
    · rename_i created
      rw [Act.after_change_bind, host_change]
      apply Shift.weaves key
      refine Shift.trans (q := [.holding r]) (.move (fun tasks => ?_) (only_modifyBook _ x))
        (issue_shift scripts q.issuer r _)
      rw [strand_modifyBook]
      exact .begin found created
    · exact .refl x

theorem refresh_keeps : Keeps (refresh run key) :=
  keeps_bind (newRequest_keeps none) fun r => subscribe_keeps scripts r none

theorem updateBusy_closed {w : Application} (closed : (w.table key).closed = true) :
    ((updateBusy run key w).table key).busy = false := by
  have waits : isWaiting (w.table key) = false := isWaiting_closed closed
  unfold updateBusy
  dsimp only
  split
  · rename_i same
    exact same.symm.trans waits
  · let busy := isWaiting (w.table key)
    let turned := (w.record (.mark key .recounted)).modifyTable key fun t => { t with busy }
    let shared := turned.shareBusy key busy
    have strand : shared.strand [] key = { turned.strand [] key with holds := busy } :=
      strand_shareBusy busy
    have table : shared.table key = { w.table key with busy } := by
      refine (congrArg Strand.table strand).trans ?_
      change turned.table key = _
      rw [table_modifyTable, table_record]
    have seen : Weaves ((shared.record (.signal key (.busyChanged busy))).sight key
        (.emitted (.busyChanged busy))) (emit run key (.busyChanged busy) shared) :=
      emit_seen scripts _ shared
    refine Path.calm (seen.paths key []) ?_ ?_
    · change (shared.table key).closed = true
      rw [table]
      exact closed
    · change (shared.table key).busy = false
      rw [table]
      exact waits

theorem close_weaves (w : Application) : Weaves w (close run key w) := by
  cases opened : (w.table key).closed with
  | true =>
    unfold close
    rw [if_pos opened]
    exact .refl w
  | false =>
    rw [close_eq run opened]
    have dropped := discardEach_shift scripts key (w.table key).book.flying (w.stopping key)
    have closed : (w.stopping key |>.table key).closed = true := by rw [table_stopping]
    have closed := Path.closed (dropped.here []) closed
    generalize (host run key).discardEach (w.table key).book.flying (w.stopping key) = x at dropped closed ⊢
    let emptied := x.modifyTable key fun t => { t with pending := 0 }
    have forgotten : Shift key [.counting, .closing] [.counting, .closing] x emptied := by
      refine .move (fun tasks => ?_) (only_modifyTable _)
      rw [strand_modifyTable]
      exact .forget closed
    have shut : (emptied.table key).closed = true := by
      unfold emptied
      rw [table_modifyTable]
      exact closed
    have none : (emptied.table key).pending = 0 := by
      unfold emptied
      rw [table_modifyTable]
    have recounted := updateBusy_shift scripts key emptied
    have idled : ((updateBusy run key emptied).table key).pending = 0 :=
      Path.idled (recounted.here []) shut none
    have stopped : Shift key [.closing] [] (updateBusy run key emptied) (updateBusy run key emptied) :=
      .move (fun _ => .stop rfl (updateBusy_closed scripts shut) idled) (.refl key _)
    have counted := recounted.above [.closing]
    apply Shift.weaves key
    refine (stopping_shift opened).trans ((dropped.above [.counting, .closing]).trans ?_)
    exact forgotten.trans (counted.trans stopped)

end Issuing

end PagedTable.Application
