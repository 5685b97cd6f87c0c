import PagedTable.Proofs.CoherentDescriptions
import PagedTable.Proofs.MutationOutcome

namespace PagedTable

def Step.alters : Step → Bool
  | .table _ (.setParentFlag _ _) => true
  | _ => false

def Event.alters : Event → Bool
  | .followed step _ => step = TableStep.name (.setParentFlag "" .null)
  | _ => false

theorem Event.alters_followed (s : Step) (outcome : Except Fault Answer) :
    (Event.followed s.name outcome).alters = s.alters := by
  cases s with
  | table key s => cases s <;> rfl
  | workspace s => cases s <;> rfl
  | _ => rfl

namespace Application

-- Tables, calls and mutations are the same, and what happened and what was seen before stays told.
structure Aside (w w' : Application) : Prop where
  tables : w'.tables = w.tables
  calls : w'.calls = w.calls
  mutations : w'.mutations = w.mutations
  sights : w'.sights = w.sights
  journal : ∃ new, w'.journal = new ++ w.journal ∧ ∀ e ∈ new, e.alters = false

-- The small changes lead where the relation says, with all that loading pages takes and all that
-- follows a mutation.
structure Lasting (leads : Application → Application → Prop) : Prop where
  refl : ∀ w, leads w w
  trans : ∀ {u v w}, leads u v → leads v w → leads u w
  aside : ∀ {w w'}, Aside w w' → leads w w'
  sight : ∀ key o w, leads w (w.sight key o)
  table : ∀ key f w, (∀ t : Table, (f t).view = t.view) → leads w (w.modifyTable key f)
  view : ∀ key f w, ((w.view key).Coherent → (f (w.view key)).Coherent) →
    leads w (w.modifyView key f)
  paged : ∀ key token keep call w, leads w (w.called { key, purpose := .page token keep, call })
  settle : ∀ m w, leads w (w.settleMutation m)
  altered : ∀ key {e w w'}, e.alters = true →
    (w' = w ∨ ∃ parent, w' = w.modifyView key fun v => { v with parent }) → leads w (w'.record e)

structure Enduring (leads : Application → Application → Prop) : Prop extends Lasting leads where
  asked : ∀ (x : Mutation) c {w u}, leads (w.starting x) u →
    leads w (u.called { key := x.key, purpose := .mutation w.mutations.length, call := c })

def Along {α : Type} (leads : Application → Application → Prop) (a : Act Application α) : Prop :=
  ∀ w, leads w (a.after w)

-- Scripts lead there too, a step with what is told of it.
def Scripted (leads : Application → Application → Prop) (run : Run) : Prop :=
  ∀ s w, leads w (((run s).after w).record (.followed s.name ((run s).outcome w).1))

variable {leads : Application → Application → Prop}

theorem along_change {f : Application → Application} (led : ∀ w, leads w (f w)) :
    Along leads (Act.change f) := led

namespace Lasting

variable (lasting : Lasting leads)

include lasting

section Primitives

variable (w : Application)

theorem record {e : Event} (plain : e.alters = false) : leads w (w.record e) := by
  refine lasting.aside ⟨rfl, rfl, rfl, rfl, [e], rfl, fun e' member => ?_⟩
  rw [List.mem_singleton.mp member]
  exact plain

theorem recordAll {events : List Event} (plain : ∀ e ∈ events, e.alters = false) :
    leads w (w.recordAll events) := by
  rw [recordAll_eq]
  refine lasting.aside ⟨rfl, rfl, rfl, rfl, events.reverse, rfl, fun e member => ?_⟩
  exact plain e (List.mem_reverse.mp member)

theorem notices (ns : List Notice) : leads w (w.notices ns) := by
  refine lasting.recordAll w fun e member => ?_
  obtain ⟨n, -, rfl⟩ := List.mem_map.mp member
  rfl

theorem beside {w' : Application} (same : (w'.tables, w'.calls, w'.mutations, w'.sights, w'.journal) =
    (w.tables, w.calls, w.mutations, w.sights, w.journal)) : leads w w' := by
  simp only [Prod.mk.injEq] at same
  obtain ⟨tables, calls, mutations, sights, journal⟩ := same
  exact lasting.aside ⟨tables, calls, mutations, sights, [], journal, fun _ member => nomatch member⟩

theorem book (run : Run) (key : Nat) (f : TableBook → TableBook) : leads w ((host run key).change f w) :=
  lasting.table key (fun t => { t with book := f t.book }) w fun _ => rfl

theorem shareBusy (key : Nat) (busy : Bool) : leads w (w.shareBusy key busy) := by
  let turned := if busy then w.indicator.acquire key else w.indicator.release key
  have held : leads w { w with indicator := turned.1 } := lasting.beside w rfl
  refine lasting.trans held (lasting.recordAll _ fun e member => ?_)
  obtain ⟨b, -, rfl⟩ := List.mem_map.mp member
  rfl

end Primitives

section Composition

variable {α β : Type} {a : Act Application α}

theorem pure (x : α) : Along leads (Pure.pure x : Act Application α) := lasting.refl

theorem fault (e : Fault) : Along leads (throw e : Act Application α) := lasting.refl

theorem get : Along leads (get : Act Application Application) := lasting.refl

theorem result (r : Except Fault α) : Along leads (Act.result r) := lasting.refl

theorem bind {f : α → Act Application β} (first : Along leads a) (second : ∀ x, Along leads (f x)) :
    Along leads (a >>= f) := fun w => Act.after_bind_leads leads lasting.trans (first w) second

theorem onFault {f : Application → Application} (led : ∀ w, leads w (f w)) (along : Along leads a) :
    Along leads (a.onFault f) := by
  intro w
  have first := along w
  rw [Act.after_eq] at first ⊢
  rw [Act.outcome_onFault]
  rcases reached : a.outcome w with ⟨e | x, u⟩ <;> rw [reached] at first
  · exact lasting.trans first (led u)
  · exact first

theorem onView (key : Nat) {f : TableView → TableView × Except Fault α}
    (coherent : ∀ v : TableView, v.Coherent → (f v).1.Coherent) : Along leads (onView key f) :=
  fun w => lasting.view key (fun _ => (f (w.view key)).1) w (coherent (w.view key))

theorem report (fault : Fault) (phrase text : Option String) :
    Along leads (report fault phrase text) := fun w => lasting.notices w _

end Composition

variable {run : Run} {key : Nat}

section Listening

variable (scripts : Scripted leads run)

include scripts

theorem follow (steps : List Step) (w : Application) : leads w (follow run steps w) := by
  induction steps generalizing w with
  | nil => exact lasting.refl w
  | cons step rest ih => exact lasting.trans (scripts step w) (ih _)

theorem emit (key : Nat) (signal : Signal) (w : Application) : leads w (emit run key signal w) := by
  unfold Application.emit
  have slots (slots : List Slot) (w : Application) :
      leads w (slots.foldl (fun w s => Application.follow run s.steps w) w) := by
    induction slots generalizing w with
    | nil => exact lasting.refl w
    | cons slot rest ih => exact lasting.trans (lasting.follow scripts slot.steps w) (ih _)
  have unplugged (w : Application) : leads w (w.unplug key signal.name) := lasting.beside w rfl
  have seen := lasting.trans (lasting.record w (e := .signal key signal) rfl)
    (lasting.sight key (.emitted signal) (w.record (.signal key signal)))
  refine lasting.trans (lasting.trans ?_ (unplugged _)) (slots _ _)
  split
  · exact lasting.trans seen (lasting.record _ rfl)
  · exact seen

theorem updateBusy (key : Nat) (w : Application) : leads w (updateBusy run key w) := by
  unfold Application.updateBusy
  have marked := lasting.record w (e := .mark key .recounted) rfl
  dsimp only
  split
  · exact marked
  · let turned (t : Table) : Table := { t with busy := isWaiting (w.table key) }
    have turning (w : Application) : leads w (w.modifyTable key turned) :=
      lasting.table key turned w fun _ => rfl
    refine lasting.trans (lasting.trans marked (turning _)) ?_
    exact lasting.trans (lasting.shareBusy _ key _) (lasting.emit scripts key _ _)

theorem setSelection (selected : List Value) (w : Application) :
    leads w (setSelection run key selected w) := by
  unfold Application.setSelection
  split
  · exact lasting.refl w
  · refine lasting.trans (lasting.view key _ w fun coherent => ?_) (lasting.emit scripts key _ _)
    exact coherent.same rfl

theorem clearSelection (key : Nat) (w : Application) : leads w (clearSelection run key w) := by
  unfold Application.clearSelection
  split
  · exact lasting.refl w
  · refine lasting.trans (lasting.view key _ w fun coherent => ?_) (lasting.emit scripts key _ _)
    exact coherent.same rfl

theorem notify (c : Callback Step) (r : Nat) : Along leads (notify run key c r) := by
  have calling : Along leads (do
      Act.change (Application.sight key (.called r))
      Act.change (Application.follow run c.steps)
      if c.fails then throw callbackFault : Act Application Unit) := by
    refine lasting.bind (along_change fun w => lasting.sight key (.called r) w) fun _ => ?_
    refine lasting.bind (along_change (lasting.follow scripts c.steps)) fun _ => ?_
    split
    · exact lasting.fault _
    · exact lasting.pure _
  unfold Application.notify
  refine lasting.bind lasting.get fun w => ?_
  dsimp only
  split
  · exact lasting.bind (along_change fun w => lasting.record w rfl) fun _ => calling
  · exact calling

theorem callAll (r : Nat) (cs : List (Callback Step)) (w : Application) :
    leads w ((host run key).callAll r cs w) := by
  induction cs generalizing w with
  | nil => exact lasting.refl w
  | cons c rest ih => exact lasting.trans (lasting.notify scripts c r w) (ih _)

theorem finish (r : Nat) (status : RequestStatus)
    (f : Request (Callback Step) Bool → Request (Callback Step) Bool) (w : Application) :
    leads w ((host run key).finish r status f w) := by
  unfold Host.finish
  split
  · exact lasting.refl w
  · split
    · exact lasting.refl w
    · refine lasting.trans ?_ (lasting.callAll scripts r _ _)
      exact lasting.book w run key _

theorem discardAll (key : Nat) (w : Application) : leads w ((host run key).discardAll w) := by
  have each (rs : List Nat) (w : Application) : leads w ((host run key).discardEach rs w) := by
    induction rs generalizing w with
    | nil => exact lasting.refl w
    | cons r rest ih => exact lasting.trans (lasting.finish scripts r .stale id w) (ih _)
  exact lasting.trans (lasting.book w run key Book.untrackAll) (each _ _)

theorem supersede (key r : Nat) (tracked : Bool) (w : Application) :
    leads w (supersede run key r tracked w) := by
  let seen := w.sight key (.began (.page (w.table key).book.nextToken))
  have allotted : leads w ((host run key).change (fun b => b.allot r) seen) :=
    lasting.trans (lasting.sight key _ w) (lasting.book seen run key _)
  have dropped := lasting.trans allotted (lasting.discardAll scripts key _)
  unfold Application.supersede Host.add
  dsimp only
  split
  · exact lasting.trans dropped (lasting.book _ run key _)
  · exact dropped

theorem takeRequest (token : Int) : Along leads (takeRequest run key token) := by
  intro w
  have noted : leads w (w.notePassedOver key token) := by
    unfold notePassedOver
    dsimp only
    split
    · exact lasting.record w rfl
    · exact lasting.refl w
  change leads w ((host run key).take token (w.notePassedOver key token)).2
  unfold Host.take
  split
  · exact noted
  · have untracked := lasting.trans noted (lasting.book _ run key fun b => b.untrack token)
    dsimp only
    split
    · exact untracked
    · exact lasting.trans untracked (lasting.finish scripts _ .stale id _)

end Listening

section Loading

variable (scripts : Scripted leads run)

include scripts

theorem applyPage (page : Page) (keep : Bool) : Along leads (applyPage run key page keep) := by
  refine lasting.bind (along_change fun w => lasting.view key _ w fun coherent => ?_) fun _ => ?_
  · exact coherent.same rfl
  · refine lasting.bind (lasting.onView key fun v coherent => ?_) fun selected => ?_
    · exact (v.surviving_described keep page.rows).coherent coherent
    · exact along_change (lasting.setSelection scripts selected)

omit scripts in
theorem markReplaced (token : Int) (page : Page) (keep : Bool) (w : Application) :
    leads w (w.markReplaced key token page keep) :=
  lasting.trans (lasting.record w rfl) (lasting.sight key (.showing page keep) _)

theorem pageFailed (r : Nat) (token : Int) (fault : Fault) (keep : Bool) :
    Along leads (pageFailed run key r token fault keep) := by
  have failed : Along leads (failing run key r token fault.toFailure) := by
    refine lasting.bind (along_change (lasting.updateBusy scripts key)) fun _ => ?_
    refine lasting.bind (along_change (lasting.emit scripts key _)) fun _ => ?_
    refine lasting.bind (lasting.report _ none none) fun _ => ?_
    exact along_change (lasting.finish scripts r _ _)
  rw [pageFailed_eq]
  split
  · refine lasting.bind (along_change (lasting.markReplaced token _ keep)) fun _ => ?_
    refine lasting.bind (lasting.applyPage scripts _ keep) fun _ => ?_
    exact lasting.bind (along_change (lasting.emit scripts key _)) fun _ => failed
  · exact failed

theorem pageLoaded (token : Int) (keep : Bool) (o : Outcome) :
    Along leads (pageLoaded run key token keep o) := by
  refine lasting.bind (lasting.takeRequest scripts token) fun taken => ?_
  split
  · exact lasting.pure ()
  · rename_i r
    refine lasting.bind lasting.get fun w => ?_
    split
    · exact lasting.pageFailed scripts r token _ keep
    · rename_i page _
      refine lasting.bind (along_change (lasting.markReplaced token page keep)) fun _ => ?_
      refine lasting.bind (lasting.onFault (fun w => lasting.record w rfl)
        (lasting.applyPage scripts page keep)) fun _ => ?_
      refine lasting.bind (along_change (lasting.updateBusy scripts key)) fun _ => ?_
      refine lasting.bind (along_change (lasting.emit scripts key _)) fun _ => ?_
      refine lasting.bind (along_change (lasting.emit scripts key _)) fun _ => ?_
      exact along_change (lasting.finish scripts r _ _)

omit scripts in
theorem answerAtOnce {complete : Outcome → Act Application Unit}
    (completed : ∀ o, Along leads (complete o)) (raises : Option Fault) (deliveries : List Delivery) :
    Along leads (answerAtOnce complete raises deliveries) := by
  induction deliveries with
  | nil =>
    cases raises with
    | none => exact lasting.pure ()
    | some e => exact lasting.fault e
  | cons d rest ih =>
    refine lasting.bind (lasting.result _) fun o => ?_
    exact lasting.bind (completed o) fun _ => ih

theorem askForPage (token : Int) (query : Query) (keep : Bool) :
    Along leads (askForPage run key token query keep) := by
  have asked : Along leads (callProvider key (.list query) (.page token keep)
      (Application.pageLoaded run key token keep)) := by
    intro w
    unfold callProvider
    simp only [Act.after_change_bind, Act.after_get_bind]
    refine lasting.trans (lasting.paged key token keep (.list query) w) ?_
    exact lasting.answerAtOnce (lasting.pageLoaded scripts token keep) _ _ _
  refine lasting.bind (a := Act.attempt _) asked fun outcome => ?_
  split
  · exact lasting.pure ()
  · refine lasting.bind (lasting.takeRequest scripts token) fun taken => ?_
    split
    · exact lasting.pure ()
    · exact lasting.pageFailed scripts _ token _ keep

theorem issueEmpty (r : Nat) (keep : Bool) : Along leads (issueEmpty run key r keep) := by
  refine lasting.bind (along_change (lasting.supersede scripts key r false)) fun _ => ?_
  refine lasting.bind (along_change fun w => lasting.sight key _ w) fun _ => ?_
  refine lasting.bind (along_change fun w => lasting.record w rfl) fun _ => ?_
  refine lasting.bind (lasting.applyPage scripts _ keep) fun _ => ?_
  refine lasting.bind (along_change (lasting.updateBusy scripts key)) fun _ => ?_
  refine lasting.bind (along_change (lasting.emit scripts key _)) fun _ => ?_
  exact along_change (lasting.finish scripts r _ _)

theorem issueQuery (r : Nat) (keep : Bool) : Along leads (issueQuery run key r keep) := by
  have unasked (w : Application) : leads w (w.noteUnasked key r) :=
    lasting.trans (lasting.sight key _ w) (lasting.record _ rfl)
  refine lasting.bind (along_change (lasting.supersede scripts key r true)) fun _ => ?_
  refine lasting.bind lasting.get fun w => ?_
  refine lasting.bind (lasting.onFault unasked (lasting.result _)) fun query => ?_
  refine lasting.bind lasting.get fun w => ?_
  refine lasting.bind (along_change fun w => lasting.record w rfl) fun _ => ?_
  refine lasting.bind (along_change fun w => lasting.book w run key _) fun _ => ?_
  refine lasting.bind (along_change (lasting.updateBusy scripts key)) fun _ => ?_
  refine lasting.bind (along_change (lasting.emit scripts key _)) fun _ => ?_
  exact lasting.askForPage scripts _ query keep

theorem issue (keep : Bool) (r : Nat) : Along leads (issue run key keep r) := by
  refine lasting.bind lasting.get fun w => ?_
  dsimp only
  split
  · exact along_change (lasting.finish scripts r .stale id)
  · split
    · exact lasting.issueEmpty scripts r keep
    · exact lasting.issueQuery scripts r keep

theorem subscribe (r : Nat) (callback : Option (Callback Step)) :
    Along leads (subscribe run key r callback) := by
  have registered (w : Application) : leads w ((host run key).register r callback w) := by
    unfold Host.register
    cases callback with
    | none => exact lasting.refl w
    | some c =>
      dsimp only
      split
      · exact lasting.notify scripts c r w
      · exact lasting.book w run key _
  refine lasting.bind (along_change registered) fun _ => ?_
  refine lasting.bind lasting.get fun w => ?_
  split
  · exact lasting.pure ()
  · split
    · refine lasting.bind (along_change fun w => lasting.book w run key _) fun _ => ?_
      exact lasting.issue scripts _ r
    · exact lasting.pure ()

omit scripts in
theorem newRequest (keep : Option Bool) : Along leads (newRequest key keep) := by
  refine lasting.bind lasting.get fun w => ?_
  exact lasting.bind (along_change fun w => lasting.table key _ w fun _ => rfl) fun _ =>
    lasting.pure _

theorem refresh : Along leads (refresh run key) :=
  lasting.bind (lasting.newRequest none) fun r => lasting.subscribe scripts r none

theorem close (w : Application) : leads w (close run key w) := by
  unfold Application.close
  split
  · exact lasting.refl w
  · let closed (t : Table) : Table := { t with closed := true }
    let idle (t : Table) : Table := { t with pending := 0 }
    have stopped := lasting.trans (lasting.table key closed w fun _ => rfl)
      (lasting.record _ (e := .mark key .closed) rfl)
    have seen := lasting.trans stopped (lasting.sight key .closing _)
    have dropped := lasting.trans seen (lasting.discardAll scripts key _)
    have rests := lasting.trans dropped (lasting.table key idle _ fun _ => rfl)
    exact lasting.trans rests (lasting.updateBusy scripts key _)

end Loading

section Following

variable (scripts : Scripted leads run)

include scripts

theorem runSequel (s : Sequel) (r : MutationResult) : Along leads (runSequel run key s r) := by
  cases s with
  | nothing => exact lasting.pure ()
  | clearQuietly => exact along_change (lasting.clearSelection scripts key)
  | script clears steps fails =>
    refine lasting.bind (along_change fun w => lasting.record w rfl) fun _ => ?_
    refine lasting.bind (along_change fun w => ?_) fun _ => ?_
    · split
      · exact lasting.clearSelection scripts key w
      · exact lasting.refl w
    refine lasting.bind (along_change (lasting.follow scripts steps)) fun _ => ?_
    split
    · exact lasting.fault _
    · exact lasting.pure ()

theorem concludeMutation (x : Mutation) (o : Outcome) : Along leads (concludeMutation run x o) := by
  unfold Application.concludeMutation
  split
  · refine lasting.bind lasting.get fun w => ?_
    refine lasting.bind (lasting.result _) fun pair => ?_
    exact lasting.bind (lasting.report _ _ _) fun _ => lasting.pure _
  · have shown : Along leads (showSuccess x.key x.kind) := by
      refine lasting.bind lasting.get fun w => ?_
      refine lasting.bind (lasting.result _) fun pair => ?_
      refine lasting.bind (lasting.result _) fun text => ?_
      exact along_change fun w => lasting.notices w _
    refine lasting.bind shown fun _ => ?_
    exact lasting.bind (lasting.runSequel scripts _ _) fun _ => lasting.refresh scripts

theorem mutationDone (m : Nat) (o : Outcome) : Along leads (mutationDone run m o) := by
  refine lasting.bind lasting.get fun w => ?_
  split
  · exact lasting.pure ()
  · rename_i x _
    split
    · exact lasting.pure ()
    · refine lasting.bind (along_change fun w => lasting.sight x.key _ w) fun _ => ?_
      refine lasting.bind (along_change (lasting.settle m)) fun _ => ?_
      refine lasting.bind (along_change fun w => lasting.table x.key _ w fun _ => rfl) fun _ => ?_
      refine lasting.bind lasting.get fun w => ?_
      split
      · exact lasting.pure ()
      · refine lasting.bind (along_change (lasting.updateBusy scripts x.key)) fun _ => ?_
        exact lasting.concludeMutation scripts x o

theorem answering (m : Nat) (c : ProviderCall) : Along leads (answering run m c) := by
  refine lasting.bind lasting.get fun w => ?_
  refine lasting.bind (a := Act.attempt _)
    (lasting.answerAtOnce (lasting.mutationDone scripts m) _ _) fun outcome => ?_
  split
  · exact lasting.pure ()
  · exact lasting.mutationDone scripts m _

end Following

end Lasting

end Application

end PagedTable
