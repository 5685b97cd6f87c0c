import PagedTable.Proofs.Weaving

namespace PagedTable.Application
open Strand

variable {run : Run} {key : Nat}

def IsAsked (w : Application) (key : Nat) (token : Int) : Prop :=
  ∃ c ∈ w.calls, c.key = key ∧ ∃ keep, c.purpose = .page token keep

theorem move_calls {s s' : Strand} {c : OpenCall} (move : Move key s s') (made : c ∈ s.calls) :
    c ∈ s'.calls := by
  cases move with
  | ask top keep => exact List.mem_append_left _ made
  | request top => exact List.mem_append_left _ made
  | recount top =>
    simp only [doing, recounted]
    split <;> exact made
  | _ => exact made

theorem path_calls {s s' : Strand} {c : OpenCall} (path : Path key s s') (made : c ∈ s.calls) :
    c ∈ s'.calls := by
  induction path with
  | refl => exact made
  | tail _ move ih => exact move_calls move ih

theorem Weaves.calls {w w' : Application} {c : OpenCall} (woven : Weaves w w') (made : c ∈ w.calls) :
    c ∈ w'.calls := by
  have own : c ∈ (w.strand [] c.key).calls := List.mem_filter.mpr ⟨made, by simp⟩
  exact (List.mem_filter.mp (path_calls (woven.paths c.key []) own)).1

theorem IsAsked.later {w w' : Application} {token : Int} (asked : IsAsked w key token)
    (woven : Weaves w w') : IsAsked w' key token := by
  obtain ⟨c, made, rest⟩ := asked
  exact ⟨c, woven.calls made, rest⟩

structure Viewed (key : Nat) (v : TableView) (w w' : Application) : Prop where
  only : Only key w w'
  here : ∀ tasks, w'.strand tasks key = (w.strand tasks key).withView v

theorem Viewed.self (w : Application) : Viewed key (w.view key) w w := ⟨.refl key w, fun _ => rfl⟩

theorem Viewed.modify (f : TableView → TableView) (w : Application) :
    Viewed key (f (w.view key)) w (w.modifyView key f) :=
  ⟨only_modifyView f, fun _ => strand_modifyView f⟩

theorem Viewed.trans {v v' : TableView} {w u x : Application} (one : Viewed key v w u)
    (two : Viewed key v' u x) : Viewed key v' w x :=
  ⟨one.only.trans two.only, fun tasks => by rw [two.here, one.here]; rfl⟩

theorem Viewed.alike {v : TableView} {w u x : Application} (one : Viewed key v w u)
    (two : Viewed key v w x) : Alike u x :=
  one.only.alike two.only fun tasks => by rw [one.here, two.here]

theorem Viewed.across {v v' : TableView} {w u x : Application} (one : Viewed key v w u)
    (two : Viewed key v' w x) : Viewed key v' u x :=
  ⟨⟨fun k other tasks => by rw [two.only.strands k other, one.only.strands k other],
      two.only.beside.trans one.only.beside.symm⟩,
    fun tasks => by rw [two.here, one.here]; rfl⟩

theorem Viewed.record {v : TableView} {w u : Application} {e : Event} (viewed : Viewed key v w u)
    (own : e.key? = some key) : Viewed key v (w.record e) (u.record e) := by
  refine ⟨⟨fun k other tasks => ?_, ?_⟩, fun tasks => ?_⟩
  · rw [(only_record own).strands k other, (only_record own).strands k other,
      viewed.only.strands k other]
  · rw [(only_record own).beside, (only_record own).beside, viewed.only.beside]
  · rw [strand_record own, strand_record own, viewed.here]
    rfl

section

theorem applyPage_outcome (run : Run) (key : Nat) (page : Page) (keep : Bool) (w : Application) :
    let read := { w.view key with rows := page.rows, total := page.total }.surviving keep page.rows
    ∃ described, Viewed key read.1 w described ∧ described.view key = read.1 ∧
      (applyPage run key page keep).outcome w =
        match read.2 with
        | .ok selected => (.ok (), setSelection run key selected described)
        | .error e => (.error e, described) := by
  let paged := w.modifyView key fun v => { v with rows := page.rows, total := page.total }
  let described := paged.modifyView key fun _ => ((paged.view key).surviving keep page.rows).1
  have showing : paged.view key = { w.view key with rows := page.rows, total := page.total } :=
    view_modifyView _
  rw [← showing]
  refine ⟨described, (Viewed.modify _ w).trans (Viewed.modify (fun _ => _) paged),
    view_modifyView _, ?_⟩
  unfold applyPage
  rw [Act.outcome_change_bind, Act.outcome_bind, outcome_onView]
  change (match (((paged.view key).surviving keep page.rows).2, described) with | _ => _) = _
  cases ((paged.view key).surviving keep page.rows).2 <;> rfl

variable (scripts : Scripts run)

include scripts

theorem updateBusy_shift (key : Nat) (w : Application) :
    Shift key [.counting] [] w (updateBusy run key w) := by
  let marked := w.record (.mark key .recounted)
  have only : Only key w marked := only_record rfl
  unfold updateBusy
  dsimp only
  split
  · rename_i same
    refine .move (fun tasks => ?_) only
    have move : Move key _ _ := .recount (s := w.strand (.counting :: tasks) key) rfl
    rw [recounted_same same] at move
    rw [strand_record rfl]
    exact move
  · rename_i changed
    let busy := isWaiting (w.table key)
    let signal : Signal := .busyChanged busy
    let turned := marked.modifyTable key fun t => { t with busy }
    let shared := turned.shareBusy key busy
    have before : Only key w turned := only.trans (only_modifyTable _)
    have after : Only key shared ((shared.record (.signal key signal)).sight key (.emitted signal)) :=
      (only_record rfl).trans (only_sight _)
    refine Shift.then (v := (shared.record (.signal key signal)).sight key (.emitted signal)) ?_
      (emit_seen scripts signal shared)
    refine .stride (fun tasks => ?_) (fun k other tasks => ?_) ?_
    · have move : Move key _ _ := .recount (s := w.strand (.counting :: tasks) key) rfl
      rw [recounted_changed changed] at move
      rw [strand_sight, strand_record rfl, strand_shareBusy, strand_modifyTable, strand_record rfl]
      exact move
    · rw [after.strands k other, strand_shareBusy_other other, before.strands k other]
    · exact (Grows.same before.beside).trans ((shareBusy_grows key busy turned).trans (.same after.beside))

theorem setSelection_weaves {w u : Application} {selected : List Value}
    (viewed : Viewed key (if Members.same selected (w.view key).selected then w.view key
      else { w.view key with selected }) w u) : Weaves u (setSelection run key selected w) := by
  unfold setSelection
  split
  · rename_i same
    rw [if_pos same] at viewed
    exact (viewed.alike (.self w)).weaves
  · rename_i differs
    rw [if_neg differs] at viewed
    have modified := viewed.alike (.modify (fun v => { v with selected }) w)
    exact modified.weaves.trans (emit_weaves scripts key _ rfl _)

theorem clearSelection_weaves {w u : Application}
    (viewed : Viewed key { w.view key with selected := [] } w u) :
    Weaves u (clearSelection run key w) := by
  unfold clearSelection
  split
  · rename_i none
    have same : { w.view key with selected := [] } = w.view key := by
      rw [← List.isEmpty_iff.mp none]
    rw [same] at viewed
    exact (viewed.alike (.self w)).weaves
  · have modified := viewed.alike (.modify (fun v => { v with selected := [] }) w)
    exact modified.weaves.trans (emit_weaves scripts key _ rfl _)

theorem clearSelection_keeps (w : Application) : Weaves w (clearSelection run key w) :=
  (view_weaves .clear).trans
    (clearSelection_weaves scripts (.modify (fun v => { v with selected := [] }) w))

theorem applyPage_weaves {w u : Application} {page : Page} {keep : Bool}
    (viewed : Viewed key ((w.view key).shown page keep) w u) :
    (∃ w', (applyPage run key page keep).outcome w = (.ok (), w') ∧ Weaves u w') ∨
      ∃ e w', (applyPage run key page keep).outcome w = (.error e, w') ∧ Alike u w' := by
  obtain ⟨described, reading, view, outcome⟩ := applyPage_outcome run key page keep w
  rw [outcome]
  generalize read : ({ w.view key with rows := page.rows, total := page.total } : TableView).surviving
    keep page.rows = result at reading view
  obtain ⟨v, e | selected⟩ := result
  · refine .inr ⟨e, described, rfl, ?_⟩
    have shown : (w.view key).shown page keep = v := by
      rw [TableView.shown_error (e := e) (by rw [read]), read]
    rw [shown] at viewed
    exact viewed.alike reading
  · refine .inl ⟨_, rfl, setSelection_weaves scripts ?_⟩
    rw [TableView.shown_ok (by rw [read]), read] at viewed
    rw [view]
    exact reading.across viewed

theorem applyPage_empty {w u : Application} {keep : Bool}
    (viewed : Viewed key ((w.view key).shown Page.empty keep) w u) :
    ∃ w', (applyPage run key Page.empty keep).outcome w = (.ok (), w') ∧ Weaves u w' := by
  rcases applyPage_weaves scripts viewed with shown | ⟨e, w', lost, -⟩
  · exact shown
  · obtain ⟨described, -, -, outcome⟩ := applyPage_outcome run key Page.empty keep w
    have none : ({ w.view key with rows := Page.empty.rows, total :=
        Page.empty.total } : TableView).surviving keep Page.empty.rows = (_, .ok []) :=
      TableView.surviving_none _ keep
    rw [outcome, none] at lost
    cases lost

end

section Taking

variable {token : Int} {w : Application} {r : Nat}

theorem table_notePassedOver : (w.notePassedOver key token).table key = w.table key := by
  unfold notePassedOver
  dsimp only
  split <;> rfl

theorem take_none (missing : Entries.get? token (w.table key).book.inFlight = none) :
    (takeRequest run key token).outcome w = (.ok none, w) := by
  have unnoted : w.notePassedOver key token = w := by simp [notePassedOver, Entries.has, missing]
  simp only [takeRequest, Act.outcome_of, unnoted, Host.take, host_read, missing]

theorem take_latest (found : Entries.get? token (w.table key).book.inFlight = some r)
    (latest : token = (w.table key).book.latest) :
    (takeRequest run key token).outcome w =
      (.ok (some r), w.modifyBook key fun b => b.untrack token) := by
  have unnoted : w.notePassedOver key token = w := by simp [notePassedOver, latest]
  have still : token = ((w.table key).book.untrack token).latest := latest
  simp only [takeRequest, Act.outcome_of, unnoted, Host.take, host_read, found, host_change,
    table_modifyBook, if_pos still]

theorem take_passed (found : Entries.get? token (w.table key).book.inFlight = some r)
    (old : token ≠ (w.table key).book.latest) :
    (takeRequest run key token).outcome w =
      (.ok none, (host run key).discard r
        ((w.notePassedOver key token).modifyBook key fun b => b.untrack token)) := by
  have still : ¬ token = ((w.table key).book.untrack token).latest := old
  simp only [takeRequest, Act.outcome_of, Host.take, host_read, table_notePassedOver, found,
    host_change, table_modifyBook, if_neg still]

theorem passed_shift (scripts : Scripts run)
    (found : Entries.get? token (w.table key).book.inFlight = some r)
    (old : token ≠ (w.table key).book.latest) :
    Weaves w ((host run key).discard r
      ((w.notePassedOver key token).modifyBook key fun b => b.untrack token)) := by
  have flying : Entries.has token (w.table key).book.inFlight = true := by simp [Entries.has, found]
  have recorded : w.notePassedOver key token = w.noteLapse key .passedOver
      { w.table key with book := (w.table key).book.untrack token } := by
    simp [notePassedOver, flying, old]
  apply Shift.weaves key
  refine Shift.trans (q := [.holding r]) (.move (fun tasks => ?_) ?_)
    (discard_shift scripts r _)
  · have move : Move key _ _ := .pass (s := w.strand tasks key) found old
    rw [strand_modifyBook, recorded, noteLapse, strand_record rfl]
    exact move
  · have only : Only key w (w.notePassedOver key token) := by rw [recorded]; exact only_record rfl
    exact only.trans (only_modifyBook _ _)

theorem taken_weaves (scripts : Scripts run) {f : Option Nat → Act Application Unit}
    (dropped : f none = pure ())
    (taken : ∀ r, Entries.get? token (w.table key).book.inFlight = some r →
      token = (w.table key).book.latest →
      Weaves w ((f (some r)).after (w.modifyBook key fun b => b.untrack token))) :
    Weaves w ((takeRequest run key token >>= f).after w) := by
  rw [Act.after_bind]
  cases found : Entries.get? token (w.table key).book.inFlight with
  | none =>
    rw [take_none found]
    simpa only [dropped, Act.after_pure] using Weaves.refl w
  | some r =>
    by_cases latest : token = (w.table key).book.latest
    · rw [take_latest found latest]
      exact taken r found latest
    · rw [take_passed found latest]
      simpa only [dropped, Act.after_pure] using passed_shift scripts found latest

end Taking

def failing (run : Run) (key r : Nat) (token : Int) (f : Failure) : Act Application Unit := do
  Act.change (updateBusy run key)
  Act.change (emit run key (.requestError token f.message))
  let _ ← report (.failure f) none none
  Act.change ((host run key).fail r (.failure f))

theorem pageFailed_eq (r : Nat) (token : Int) (fault : Fault) (keep : Bool) :
    pageFailed run key r token fault keep =
      if isNotFound fault.toFailure then do
        Act.change (markReplaced key token Page.empty keep)
        applyPage run key Page.empty keep
        Act.change (emit run key (.pageLoaded Page.empty.total))
        failing run key r token fault.toFailure
      else failing run key r token fault.toFailure := by
  unfold pageFailed
  dsimp only
  split <;> rfl

section Arriving

variable {token : Int} {w : Application} {r : Nat}

theorem IsAsked.answered {tasks : List Task} (asked : IsAsked w key token)
    (found : Entries.get? token (w.table key).book.inFlight = some r)
    (latest : token = (w.table key).book.latest) : (w.strand tasks key).Answered token r := by
  refine ⟨found, latest, ?_⟩
  obtain ⟨c, made, own, keep, purpose⟩ := asked
  exact ⟨c, List.mem_filter.mpr ⟨made, by simpa using own⟩, keep, purpose⟩

-- The state in which the rows are replaced, before the selection is announced.
def receiving (key : Nat) (token : Int) (page : Page) (keep : Bool) (w : Application) : Application :=
  let marked := (w.modifyBook key fun b => b.untrack token).markReplaced key token page keep
  marked.modifyView key fun v => v.shown page keep

theorem receiving_viewed (key : Nat) (token : Int) (page : Page) (keep : Bool) (w : Application) :
    let marked := (w.modifyBook key fun b => b.untrack token).markReplaced key token page keep
    Viewed key ((marked.view key).shown page keep) marked (w.receiving key token page keep) :=
  .modify (fun v => v.shown page keep) _

theorem receiving_shift (answered : ∀ tasks, (w.strand tasks key).Answered token r) (page : Page)
    (keep : Bool) : Shift key [] [.counting, .holding r] w (w.receiving key token page keep) := by
  let untracked := w.modifyBook key fun b => b.untrack token
  let marked := untracked.markReplaced key token page keep
  have only : Only key untracked marked := (only_record rfl).trans (only_sight _)
  refine .move (fun tasks => ?_) ?_
  · have move : Move key _ _ := .receive (answered tasks) page keep
    have recorded : marked.strand (.counting :: .holding r :: tasks) key =
        ((untracked.strand (.counting :: .holding r :: tasks) key).note
          (.mark key (.rowsReplaced token (untracked.latest key)))).sight key (.showing page keep) :=
      (strand_sight _).trans (congrArg (Strand.sight key _) (strand_record rfl))
    have latest : untracked.latest key = (w.table key).book.latest := by
      unfold latest
      rw [table_modifyBook]
      rfl
    have view : marked.view key = w.view key := by
      change (untracked.table key).view = (w.table key).view
      rw [table_modifyBook]
    change Move key _ ((marked.modifyView key fun v => v.shown page keep).strand _ key)
    rw [strand_modifyView]
    change Move key _ ((marked.strand (.counting :: .holding r :: tasks) key).withView _)
    rw [recorded, strand_modifyBook, latest, view]
    exact move
  · exact (only_modifyBook _ w).trans (only.trans (receiving_viewed key token page keep w).only)

theorem taking_shift (answered : ∀ tasks, (w.strand tasks key).Answered token r) :
    Shift key [] [.counting, .holding r] w (w.modifyBook key fun b => b.untrack token) := by
  refine .move (fun tasks => ?_) (only_modifyBook _ w)
  rw [strand_modifyBook]
  exact .take (answered tasks)

variable (scripts : Scripts run)

include scripts

-- Where the user cannot be told, the request is left as it is.
theorem failing_shift (f : Failure) (w : Application) :
    Shift key [.counting, .holding r] [] w ((failing run key r token f).after w) := by
  unfold failing
  simp only [Act.after_change_bind]
  have counted := (updateBusy_shift scripts key w).above [.holding r]
  have emitted := emit_weaves scripts key (.requestError token f.message) rfl (updateBusy run key w)
  refine counted.trans ((emitted.shift key _).trans ?_)
  generalize emit run key (.requestError token f.message) (updateBusy run key w) = x
  have told : Weaves x ((report (.failure f) none none).after x) := report_keeps _ _ _ x
  rw [Act.after_bind]
  rw [Act.after_eq] at told
  generalize (report (.failure f) none none).outcome x = reached at told
  obtain ⟨e | g, y⟩ := reached
  · exact (told.shift key _).trans (.move (fun _ => .abandon rfl) (.refl key y))
  · exact (told.shift key _).trans (fail_shift scripts r _ y)

theorem pageFailed_weaves (answered : ∀ tasks, (w.strand tasks key).Answered token r) (fault : Fault)
    (keep : Bool) : Weaves w ((pageFailed run key r token fault keep).after
      (w.modifyBook key fun b => b.untrack token)) := by
  apply Shift.weaves key
  rw [pageFailed_eq]
  split
  · rw [Act.after_change_bind]
    obtain ⟨x, shown, woven⟩ := applyPage_empty scripts (receiving_viewed key token Page.empty keep w)
    rw [Act.after_bind, shown]
    dsimp only
    rw [Act.after_change_bind]
    have received := (receiving_shift answered Page.empty keep).then woven
    exact (received.then (emit_weaves scripts key _ rfl x)).trans (failing_shift scripts _ _)
  · exact (taking_shift answered).trans (failing_shift scripts _ _)

theorem pageRaised_weaves (asked : IsAsked w key token) (keep : Bool) (e : Fault) :
    Weaves w ((pageRaised run key token keep e).after w) := by
  unfold pageRaised
  refine taken_weaves scripts rfl fun r found latest => ?_
  exact pageFailed_weaves scripts (fun tasks => asked.answered found latest) e keep

theorem pageLoaded_weaves (asked : IsAsked w key token) (keep : Bool) (o : Outcome) :
    Weaves w ((pageLoaded run key token keep o).after w) := by
  unfold pageLoaded
  refine taken_weaves scripts rfl fun r found latest => ?_
  have answered (tasks : List Task) : (w.strand tasks key).Answered token r :=
    asked.answered found latest
  simp only [Act.after_get_bind]
  split
  · exact pageFailed_weaves scripts answered _ keep
  · rename_i page delivered
    apply Shift.weaves key
    rw [Act.after_change_bind, Act.after_bind]
    have viewed := receiving_viewed key token page keep w
    have received := receiving_shift answered page keep
    rcases applyPage_weaves scripts viewed with ⟨x, shown, woven⟩ | ⟨e, x, lost, alike⟩
    · rw [Act.outcome_onFault_ok shown]
      simp only [Act.after_change_bind, Act.after_change]
      have counted := (updateBusy_shift scripts key x).above [.holding r]
      refine (received.then woven).trans (counted.trans ?_)
      refine Shift.trans (Weaves.shift ?_ key _) (resolve_shift scripts r page _)
      exact (emit_weaves scripts key (.pageLoaded page.total) rfl _).trans
        (emit_weaves scripts key (.requestCompleted token) rfl _)
    · rw [Act.outcome_onFault_error lost]
      refine (received.then alike.weaves).trans (.move (fun tasks => ?_) (only_record rfl))
      have move : Move key _ _ := .lose (s := x.strand (.counting :: .holding r :: tasks) key) rfl
      unfold noteStopped noteLapse
      dsimp only
      rw [strand_record rfl]
      exact move

end Arriving

end PagedTable.Application
