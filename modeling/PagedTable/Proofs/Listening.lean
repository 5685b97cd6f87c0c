import PagedTable.Proofs.Weaving.Running
import PagedTable.Proofs.Wordings

namespace PagedTable

def Occasion.isIssue : Occasion → Bool
  | .began (.page _) => true
  | _ => false

def Event.isOutcome : Event → Bool
  | .succeeded _ _ | .notice (.status _) => true
  | _ => false

-- The requests that were issued and the successes that were told of, the newest first, the number of
-- requests of every table and whether it is closed.
structure Gist where
  issued : List Sight
  outcomes : List Event
  requests : Nat → Nat
  closed : Nat → Bool

namespace Application

def gist (w : Application) : Gist where
  issued := w.sights.filter fun g => g.occasion.isIssue
  outcomes := w.journal.filter Event.isOutcome
  requests key := (w.table key).book.requests.length
  closed key := (w.table key).closed

-- Listeners change nothing.
def Observing (run : Run) : Prop := ∀ s w, (run s).after w = w

theorem observing_none : Observing (runTo 0) := fun _ _ => rfl

-- An operation of which the gist does not tell, whatever its outcome.
def Plain {α : Type} (a : Act Application α) : Prop := ∀ w, (a.after w).gist = w.gist

section Primitives

variable {key : Nat} {w : Application}

theorem gist_record {e : Event} (plain : e.isOutcome = false) : (w.record e).gist = w.gist := by
  simp [gist, record, plain]
  exact ⟨rfl, rfl⟩

theorem gist_recordAll {events : List Event} (plain : ∀ e ∈ events, e.isOutcome = false) :
    (w.recordAll events).gist = w.gist := by
  have none : events.reverse.filter Event.isOutcome = [] := by
    refine List.filter_eq_nil_iff.mpr fun e member => ?_
    simp [plain e (List.mem_reverse.mp member)]
  rw [recordAll_eq]
  simp only [gist, List.filter_append, none, List.nil_append]
  rfl

theorem gist_sight {o : Occasion} (plain : o.isIssue = false) : (w.sight key o).gist = w.gist := by
  simp [gist, sight, plain]
  exact ⟨rfl, rfl⟩

theorem gist_modifyTable (f : Table → Table)
    (same : ∀ t, (f t).book.requests.length = t.book.requests.length ∧ (f t).closed = t.closed) :
    (w.modifyTable key f).gist = w.gist := by
  have there (k : Nat) : ((w.modifyTable key f).table k).book.requests.length =
      (w.table k).book.requests.length ∧
      ((w.modifyTable key f).table k).closed = (w.table k).closed := by
    by_cases own : k = key
    · subst own
      rw [table_modifyTable]
      exact same _
    · rw [table_modifyTable_other own]
      exact ⟨rfl, rfl⟩
  simp only [gist, there]
  rfl

theorem gist_modifyView (f : TableView → TableView) : (w.modifyView key f).gist = w.gist :=
  gist_modifyTable _ fun _ => ⟨rfl, rfl⟩

theorem gist_modifyBook (f : TableBook → TableBook)
    (same : ∀ b, (f b).requests.length = b.requests.length) : (w.modifyBook key f).gist = w.gist :=
  gist_modifyTable _ fun t => ⟨same t.book, rfl⟩

theorem requests_modify (b : TableBook) (r : Nat)
    (f : Request (Callback Step) Bool → Request (Callback Step) Bool) : (b.modify r f).requests.length = b.requests.length := List.length_modify ..

theorem create_gist (key : Nat) (keep : Bool) (w : Application) :
    (w.modifyBook key fun b => b.create keep).gist =
      { w.gist with requests := fun k => w.gist.requests k + if k = key then 1 else 0 } := by
  let made := w.modifyBook key fun b => b.create keep
  have there (k : Nat) : (made.table k).book.requests.length =
      (w.table k).book.requests.length + (if k = key then 1 else 0) ∧
      (made.table k).closed = (w.table k).closed := by
    unfold made
    by_cases same : k = key
    · subst same
      simp [table_modifyBook, Book.create]
    · have other : (w.modifyBook key fun b => b.create keep).table k = w.table k :=
        table_modifyTable_other same _
      simp [other, same]
  change made.gist = _
  simp only [gist, there]
  rfl

theorem gist_notices {ns : List Notice} (plain : ∀ n ∈ ns, (Event.notice n).isOutcome = false) :
    (w.notices ns).gist = w.gist := by
  refine gist_recordAll fun e member => ?_
  obtain ⟨n, there, rfl⟩ := List.mem_map.mp member
  exact plain n there

theorem gist_shareBusy (busy : Bool) : (w.shareBusy key busy).gist = w.gist := by
  unfold shareBusy
  refine (gist_recordAll fun e member => ?_).trans rfl
  obtain ⟨b, -, rfl⟩ := List.mem_map.mp member
  rfl

theorem announce_plain (f : Failure) :
    ∀ n ∈ w.workspace.announce f, (Event.notice n).isOutcome = false := by
  intro n member
  unfold Workspace.announce at member
  split at member
  · cases member
  · obtain ⟨call, -, rfl⟩ := List.mem_map.mp member
    rfl

theorem failureBox_plain {f : Failure} {k text : Option String} {box : List Notice}
    (boxed : w.workspace.failureBox f k text [] = .ok box) :
    ∀ n ∈ box, (Event.notice n).isOutcome = false := by
  obtain ⟨message, -, boxed⟩ := Act.bind_ok boxed
  obtain ⟨title, -, boxed⟩ := Act.bind_ok boxed
  cases boxed
  intro n member
  unfold Workspace.showError at member
  split at member
  · cases List.mem_singleton.mp member
    rfl
  · cases member

end Primitives

section Composition

variable {α β : Type} {a : Act Application α}

theorem plain_pure (x : α) : Plain (pure x : Act Application α) := fun _ => rfl

theorem plain_throw (e : Fault) : Plain (throw e : Act Application α) := fun _ => rfl

theorem plain_get : Plain (get : Act Application Application) := fun _ => rfl

theorem plain_result (r : Except Fault α) : Plain (Act.result r) := fun _ => rfl

theorem plain_change {f : Application → Application} (same : ∀ w, (f w).gist = w.gist) :
    Plain (Act.change f) := same

theorem plain_bind {f : α → Act Application β} (first : Plain a) (second : ∀ x, Plain (f x)) :
    Plain (a >>= f) := fun w =>
  Act.after_bind_leads (fun u v : Application => v.gist = u.gist) (fun one two => Eq.trans two one)
    (first w) second

theorem plain_onFault {f : Application → Application} (same : ∀ w, (f w).gist = w.gist)
    (plain : Plain a) : Plain (a.onFault f) := by
  intro w
  have first := plain w
  rw [Act.after_eq] at first ⊢
  rw [Act.outcome_onFault]
  rcases reached : a.outcome w with ⟨e | x, u⟩ <;> rw [reached] at first
  · exact (same u).trans first
  · exact first

theorem plain_attempt (plain : Plain a) : Plain a.attempt := plain

theorem plain_onView (key : Nat) (f : TableView → TableView × Except Fault α) : Plain (onView key f) :=
  fun w => gist_modifyView fun _ => (f (w.view key)).1

theorem plain_report (fault : Fault) : Plain (report fault none none) := by
  intro w
  obtain ⟨box, boxed, handled⟩ := w.workspace.handleFailure_plain fault none none
  change (w.notices (w.workspace.handleFailure fault none none []).1).gist = w.gist
  rw [handled]
  refine gist_notices fun n member => ?_
  exact (List.mem_append.mp member).elim (announce_plain _ n) (failureBox_plain boxed n)

end Composition

variable {run : Run} {key : Nat}

section Operations

variable (observing : Observing run) (w : Application)

include observing

theorem gist_follow (steps : List Step) : (follow run steps w).gist = w.gist := by
  induction steps generalizing w with
  | nil => rfl
  | cons step rest ih =>
    refine (ih _).trans ((gist_record rfl).trans ?_)
    exact congrArg gist (observing step w)

theorem gist_slots (slots : List Slot) :
    (slots.foldl (fun w s => follow run s.steps w) w).gist = w.gist := by
  induction slots generalizing w with
  | nil => rfl
  | cons slot rest ih => exact (ih _).trans (gist_follow observing w slot.steps)

theorem gist_emit (signal : Signal) : (emit run key signal w).gist = w.gist := by
  unfold emit
  refine (gist_slots observing _ _).trans ?_
  have seen : ((w.record (.signal key signal)).sight key (.emitted signal)).gist = w.gist :=
    (gist_sight rfl).trans (gist_record rfl)
  have unplugged (x : Application) : (x.unplug key signal.name).gist = x.gist := rfl
  rw [unplugged]
  split
  · exact (gist_record rfl).trans seen
  · exact seen

theorem gist_updateBusy : (updateBusy run key w).gist = w.gist := by
  unfold updateBusy
  dsimp only
  split
  · exact gist_record rfl
  · refine (gist_emit observing _ _).trans ((gist_shareBusy _).trans ?_)
    let turned (t : Table) : Table := { t with busy := isWaiting (w.table key) }
    refine (gist_modifyTable turned fun _ => ⟨rfl, rfl⟩).trans ?_
    exact gist_record rfl

theorem gist_setSelection (selected : List Value) : (setSelection run key selected w).gist = w.gist := by
  unfold setSelection
  split
  · rfl
  · exact (gist_emit observing _ _).trans (gist_modifyView _)

theorem gist_clearSelection : (clearSelection run key w).gist = w.gist := by
  unfold clearSelection
  split
  · rfl
  · exact (gist_emit observing _ _).trans (gist_modifyView _)

omit w

theorem notify_plain (c : Callback Step) (r : Nat) : Plain (notify run key c r) := by
  have calling : Plain (do
      Act.change (sight key (.called r))
      Act.change (follow run c.steps)
      if c.fails then throw callbackFault : Act Application Unit) := by
    refine plain_bind (plain_change fun w => gist_sight rfl) fun _ => ?_
    refine plain_bind (plain_change fun w => gist_follow observing w _) fun _ => ?_
    split
    · exact plain_throw _
    · exact plain_pure _
  unfold notify
  refine plain_bind plain_get fun w => ?_
  dsimp only
  split
  · exact plain_bind (plain_change fun w => gist_record rfl) fun _ => calling
  · exact calling

theorem gist_callAll (r : Nat) (cs : List (Callback Step)) (w : Application) :
    ((host run key).callAll r cs w).gist = w.gist := by
  induction cs generalizing w with
  | nil => rfl
  | cons c rest ih => exact (ih _).trans (notify_plain observing c r w)

theorem gist_finish (r : Nat) (status : RequestStatus)
    (f : Request (Callback Step) Bool → Request (Callback Step) Bool) (w : Application) :
    ((host run key).finish r status f w).gist = w.gist := by
  unfold Host.finish
  split
  · rfl
  · split
    · rfl
    · refine (gist_callAll observing r _ _).trans ?_
      rw [host_change]
      exact gist_modifyBook _ fun b => requests_modify b r _

theorem gist_discardEach (rs : List Nat) (w : Application) :
    ((host run key).discardEach rs w).gist = w.gist := by
  induction rs generalizing w with
  | nil => rfl
  | cons r rest ih => exact (ih _).trans (gist_finish observing r .stale id w)

theorem gist_add (r : Nat) (tracked : Bool) (w : Application) :
    ((host run key).add r tracked w).gist = w.gist := by
  let alloted := (host run key).change (fun b => b.allot r) w
  have allot : alloted.gist = w.gist := by
    unfold alloted
    rw [host_change]
    exact gist_modifyBook _ fun b => requests_modify b r _
  have dropped : ((host run key).discardAll alloted).gist = w.gist := by
    refine (gist_discardEach observing _ _).trans ?_
    rw [host_change]
    exact (gist_modifyBook Book.untrackAll fun _ => rfl).trans allot
  let tracking (b : TableBook) : TableBook := b.track ((host run key).read w).nextToken r
  have added : (host run key).add r tracked w = if tracked then
      (host run key).change tracking ((host run key).discardAll alloted)
    else (host run key).discardAll alloted := rfl
  rw [added]
  split
  · rw [host_change]
    exact (gist_modifyBook tracking fun _ => rfl).trans dropped
  · exact dropped

theorem takeRequest_plain (token : Int) : Plain (takeRequest run key token) := by
  intro w
  have noted : (w.notePassedOver key token).gist = w.gist := by
    unfold notePassedOver
    dsimp only
    split
    · exact gist_record rfl
    · rfl
  change ((host run key).take token (w.notePassedOver key token)).2.gist = w.gist
  unfold Host.take
  split
  · exact noted
  · have untracked (x : Application) :
        ((host run key).change (fun b => b.untrack token) x).gist = x.gist := by
      rw [host_change]
      exact gist_modifyBook (fun b => b.untrack token) fun _ => rfl
    dsimp only
    split
    · exact (untracked _).trans noted
    · exact (gist_finish observing _ .stale id _).trans ((untracked _).trans noted)

theorem applyPage_plain (page : Page) (keep : Bool) : Plain (applyPage run key page keep) := by
  refine plain_bind (plain_change fun w => gist_modifyView _) fun _ => ?_
  refine plain_bind (plain_onView key _) fun selected => ?_
  exact plain_change fun w => gist_setSelection observing w selected

theorem pageFailed_plain (r : Nat) (token : Int) (fault : Fault) (keep : Bool) :
    Plain (pageFailed run key r token fault keep) := by
  have failed : Plain (failing run key r token fault.toFailure) := by
    refine plain_bind (plain_change (gist_updateBusy observing)) fun _ => ?_
    refine plain_bind (plain_change fun w => gist_emit observing w _) fun _ => ?_
    exact plain_bind (plain_report _) fun _ => plain_change (gist_finish observing r _ _)
  rw [pageFailed_eq]
  split
  · refine plain_bind (plain_change fun w => gist_record rfl) fun _ => ?_
    refine plain_bind (applyPage_plain observing _ keep) fun _ => ?_
    exact plain_bind (plain_change fun w => gist_emit observing w _) fun _ => failed
  · exact failed

theorem pageLoaded_plain (token : Int) (keep : Bool) (o : Outcome) :
    Plain (pageLoaded run key token keep o) := by
  refine plain_bind (takeRequest_plain observing token) fun taken => ?_
  split
  · exact plain_pure ()
  · rename_i r
    refine plain_bind plain_get fun w => ?_
    split
    · exact pageFailed_plain observing r token _ keep
    · rename_i page _
      refine plain_bind (plain_change fun w => gist_record rfl) fun _ => ?_
      refine plain_bind (plain_onFault (fun w => gist_record rfl)
        (applyPage_plain observing _ keep)) fun _ => ?_
      refine plain_bind (plain_change (gist_updateBusy observing)) fun _ => ?_
      refine plain_bind (plain_change fun w => gist_emit observing w _) fun _ => ?_
      refine plain_bind (plain_change fun w => gist_emit observing w _) fun _ => ?_
      exact plain_change (gist_finish observing r _ _)

theorem askForPage_plain (token : Int) (query : Query) (keep : Bool) :
    Plain (askForPage run key token query keep) := by
  have answering (raises : Option Fault) (deliveries : List Delivery) :
      Plain (answerAtOnce (pageLoaded run key token keep) raises deliveries) := by
    induction deliveries with
    | nil => cases raises <;> exact fun _ => rfl
    | cons d rest ih =>
      refine plain_bind (plain_result _) fun o => ?_
      exact plain_bind (pageLoaded_plain observing token keep o) fun _ => ih
  have calling : Plain (callProvider key (.list query) (.page token keep)
      (pageLoaded run key token keep)) := by
    refine plain_bind (plain_change fun w => gist_sight rfl) fun _ => ?_
    refine plain_bind (plain_change fun w => gist_record rfl) fun _ => ?_
    refine plain_bind (plain_change fun w => rfl) fun _ => ?_
    exact plain_bind plain_get fun w => answering _ _
  refine plain_bind (plain_attempt calling) fun asked => ?_
  split
  · exact plain_pure ()
  · refine plain_bind (takeRequest_plain observing token) fun taken => ?_
    split
    · exact plain_pure ()
    · exact pageFailed_plain observing _ token _ keep

theorem gist_supersede (key r : Nat) (tracked : Bool) (w : Application) :
    ∃ g, g.key = key ∧ (supersede run key r tracked w).gist =
      { w.gist with issued := g :: w.gist.issued } := by
  let occasion : Occasion := .began (.page (w.table key).book.nextToken)
  let g : Sight := { key, occasion, table := w.table key, marks := w.marks key }
  refine ⟨g, rfl, (gist_add observing r tracked _).trans ?_⟩
  simp [gist, sight, Occasion.isIssue, g, occasion]
  exact ⟨rfl, rfl⟩

theorem issue_gist (keep : Bool) (r : Nat) {w : Application} (opened : (w.table key).closed = false) :
    ∃ g, g.key = key ∧ ((issue run key keep r).after w).gist =
      { w.gist with issued := g :: w.gist.issued } := by
  unfold issue
  rw [Act.after_get_bind, if_neg (by simp [opened])]
  split
  · obtain ⟨g, own, began⟩ := gist_supersede observing key r false w
    refine ⟨g, own, ?_⟩
    unfold issueEmpty
    rw [Act.after_change_bind, ← began]
    refine plain_bind (plain_change fun w => gist_sight rfl) (fun _ => ?_) _
    refine plain_bind (plain_change fun w => gist_record rfl) fun _ => ?_
    refine plain_bind (applyPage_plain observing _ keep) fun _ => ?_
    refine plain_bind (plain_change (gist_updateBusy observing)) fun _ => ?_
    refine plain_bind (plain_change fun w => gist_emit observing w _) fun _ => ?_
    exact plain_change (gist_finish observing r _ _)
  · obtain ⟨g, own, began⟩ := gist_supersede observing key r true w
    refine ⟨g, own, ?_⟩
    unfold issueQuery
    rw [Act.after_change_bind, ← began]
    have noted (w : Application) : (w.noteUnasked key r).gist = w.gist :=
      Eq.trans (gist_record rfl) (gist_sight rfl)
    refine plain_bind plain_get (fun w => ?_) _
    refine plain_bind (plain_onFault noted (plain_result _)) fun query => ?_
    refine plain_bind plain_get fun w => ?_
    refine plain_bind (plain_change fun w => gist_record rfl) fun _ => ?_
    refine plain_bind (plain_change fun w => ?_) fun _ => ?_
    · rw [host_change]
      exact gist_modifyBook _ fun b => requests_modify b r _
    refine plain_bind (plain_change (gist_updateBusy observing)) fun _ => ?_
    refine plain_bind (plain_change fun w => gist_emit observing w _) fun _ => ?_
    exact askForPage_plain observing _ query keep

theorem refresh_gist {w : Application} (opened : (w.table key).closed = false) :
    ∃ g, g.key = key ∧ ((refresh run key).after w).gist =
      { w.gist with
        issued := g :: w.gist.issued
        requests := fun k => w.gist.requests k + if k = key then 1 else 0 } := by
  let keep := (w.table key).keepSelection
  let r := (w.table key).book.requests.length
  let made := w.modifyBook key fun b => b.create keep
  let pending := made.modifyBook key fun b => b.modify r fun q => { q with status := .pending }
  have more : pending.gist =
      { w.gist with requests := fun k => w.gist.requests k + if k = key then 1 else 0 } :=
    (gist_modifyBook _ fun b => requests_modify b r _).trans (create_gist key keep w)
  have still : (pending.table key).closed = false :=
    (congrFun (congrArg Gist.closed more) key).trans opened
  obtain ⟨g, own, issued⟩ := issue_gist observing keep r still
  refine ⟨g, own, ?_⟩
  have found : ((host run key).read made).request? r = some { issuer := keep } := by
    have book : (made.table key).book = (w.table key).book.create keep := by
      unfold made
      rw [table_modifyBook]
    change (made.table key).book.request? r = _
    rw [book]
    simp [Book.request?, Book.create, r]
  have refreshed : (refresh run key).after w = (issue run key keep r).after pending := by
    change (subscribe run key r none).after made = _
    unfold subscribe Host.subscribe
    rw [Act.after_change_bind, Act.after_get_bind]
    have registered : (host run key).register r none made = made := rfl
    rw [registered, found]
    rfl
  rw [refreshed, issued, more]

end Operations

end Application

end PagedTable
