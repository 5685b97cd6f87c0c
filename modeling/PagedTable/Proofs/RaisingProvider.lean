import PagedTable.Proofs.LatestRequest
import PagedTable.Proofs.ParentBinding
import PagedTable.Proofs.ProviderSteps

namespace PagedTable.Application
open Strand

-- Whatever comes for the call, in whatever state that follows, does nothing.
def Ignores (w : Application) (c : OpenCall) : Prop :=
  ∀ u, Weaves w u → ∀ run o, (completeCall run c o).outcome u = (.ok (), u)

-- Nothing waits for the outcome of the call: its token is not in flight, its mutation has completed.
inductive Over (w : Application) (c : OpenCall) : Prop where
  | page (purpose : c.purpose = .page token keep)
      (grounded : Entries.get? token (w.table c.key).book.inFlight = none)
  | mutation (purpose : c.purpose = .mutation m) (found : w.mutation? m = some x) (done : x.done = true)

theorem Over.ignored {w : Application} {c : OpenCall} (ended : Over w c) (made : c ∈ w.calls)
    (rests : Path c.key {} (w.strand [] c.key)) : w.Ignores c := by
  intro u later run o
  unfold completeCall
  cases ended with
  | @page token keep purpose grounded =>
    have own : c ∈ (w.strand [] c.key).calls := List.mem_filter.mpr ⟨made, by simp⟩
    have bound := (Path.bound rests).1
    have given := bound.given token (bound.asked c own token keep purpose)
    have none : ∀ e ∈ (w.strand [] c.key).entries, e.1 ≠ token := by
      intro e member same
      have flying : e ∈ (w.table c.key).book.inFlight := member
      have has := Entries.has_of_mem flying
      rw [same, Entries.has, grounded] at has
      cases has
    obtain ⟨-, gone⟩ := Path.spent (later.paths c.key []) given none
    have missing : Entries.get? token (u.table c.key).book.inFlight = .none := by
      cases found : Entries.get? token (u.table c.key).book.inFlight with
      | none => rfl
      | some r => exact absurd rfl (gone (token, r) (Entries.mem_of_get? found))
    rw [purpose]
    exact Act.outcome_bind_ok (take_none missing)
  | mutation purpose found done =>
    obtain ⟨still, there, kept⟩ := later.grows.mutations _ _ found
    rw [purpose]
    exact again_nothing there (kept done) o

def Answered (w w' : Application) : Prop := ∀ c ∈ w'.calls, c ∈ w.calls ∨ Over w' c

variable {run : Run} {key : Nat} {e : Fault} {u v w : Application}

theorem Observing.scripts (observing : Observing run) : Scripts run := by
  intro s w
  rw [observing s w]
  exact .refl w

theorem Answered.none (calls : w.calls = u.calls) : Answered u w := fun _ made => .inl (calls ▸ made)

theorem Answered.after (calls : v.calls = u.calls) (answered : Answered v w) : Answered u w :=
  fun c made => (answered c made).imp_left (calls ▸ ·)

end Application

-- What was asked of providers, how they answer, and what a table has in flight.
structure Dues where
  asked : List OpenCall
  modes : ProviderModes
  inFlight : List (Int × Nat)

namespace Scene

def dues (key : Nat) (s : Scene) : Dues := ⟨s.asked, s.modes, (s.tables key).book.inFlight⟩

variable (s : Scene) (key : Nat)

theorem dues_modify (f : Table → Table) (same : ∀ t, (f t).book.inFlight = t.book.inFlight) :
    (s.modify key f).dues key = s.dues key := by
  unfold dues
  rw [table_modify, same]
  rfl

theorem dues_setView (v : TableView) : (s.setView key v).dues key = s.dues key :=
  s.dues_modify key (fun t => { t with view := v }) fun _ => rfl

theorem dues_recount : (s.recount key).dues key = s.dues key :=
  s.dues_modify key (fun t => { t with busy := Application.isWaiting t }) fun _ => rfl

theorem dues_choose (selected : List Value) : (s.choose key selected).dues key = s.dues key := by
  unfold choose
  split
  · rfl
  · exact s.dues_modify key (fun t => { t with view := { t.view with selected } }) fun _ => rfl

theorem dues_finish (r : Nat) (q : Request (Callback Step) Bool)
    (close : Request (Callback Step) Bool → Request (Callback Step) Bool) :
    (s.finish key r q close).dues key = s.dues key :=
  s.dues_modify key (fun t => { t with book := t.book.modify r close }) fun _ => rfl

end Scene

namespace Application
open Strand

variable {run : Run} {key : Nat} {e : Fault} {u v w : Application}

def dues (key : Nat) (w : Application) : Dues := w.scene.dues key

def asks (w : Application) : List OpenCall × ProviderModes := (w.calls, w.modes)

theorem Dues.asks (key : Nat) (same : v.dues key = u.dues key) : v.asks = u.asks :=
  congrArg (fun d : Dues => (d.asked, d.modes)) same

theorem dues_modifyRequest (r : Nat) (f : Request (Callback Step) Bool → Request (Callback Step) Bool)
    (w : Application) : ((host run key).change (fun b => b.modify r f) w).dues key = w.dues key := by
  unfold dues
  rw [host_change, scene_modifyBook]
  exact w.scene.dues_modify key (fun t => { t with book := t.book.modify r f }) fun _ => rfl

section Settling

variable (observing : Observing run)

include observing

theorem dues_emit (signal : Signal) (w : Application) : (emit run key signal w).dues key = w.dues key := by
  unfold dues
  rw [scene_emit observing]
  rfl

theorem dues_updateBusy (w : Application) : (updateBusy run key w).dues key = w.dues key := by
  unfold dues
  rw [scene_updateBusy observing, Scene.dues_recount]

theorem dues_call (r : Nat) (c : Callback Step) (w : Application) :
    ((host run key).call r c w).dues key = w.dues key := by
  cases found : (w.table key).book.request? r with
  | some q =>
    unfold dues
    rw [scene_call observing w c r found]
    rfl
  | none =>
    have followed := scene_follow observing (w.sight key (.called r)) c.steps
    change ((notify run key c r).after w).dues key = _
    unfold notify
    rw [Act.after_get_bind, found]
    dsimp only
    rw [Act.after_change_bind, Act.after_change_bind]
    split <;> exact congrArg (Scene.dues key) followed

theorem dues_finish (r : Nat) (status : RequestStatus)
    (f : Request (Callback Step) Bool → Request (Callback Step) Bool) (w : Application) :
    ((host run key).finish r status f w).dues key = w.dues key := by
  cases found : (w.table key).book.request? r with
  | none =>
    unfold Host.finish
    rw [host_read, found]
  | some q =>
    cases done : q.isDone with
    | true =>
      unfold Host.finish
      rw [host_read, found]
      dsimp only
      rw [if_pos done]
    | false =>
      unfold dues
      rw [scene_finish observing w status f found done, Scene.dues_finish]

theorem dues_discardEach (rs : List Nat) (w : Application) :
    ((host run key).discardEach rs w).dues key = w.dues key := by
  induction rs generalizing w with
  | nil => rfl
  | cons r rest ih => exact (ih _).trans (dues_finish observing r .stale id w)

theorem dues_applyPage (page : Page) (keep : Bool) (w : Application) :
    ((applyPage run key page keep).after w).dues key = w.dues key := by
  rw [Act.after_eq]
  unfold dues
  rcases survives : { w.view key with rows := page.rows, total := page.total }.surviving keep
    page.rows with ⟨v, e | selected⟩
  · obtain ⟨w', stopped, scene⟩ := applyPage_stopped run w page keep survives
    rw [stopped, scene, Scene.dues_setView]
  · obtain ⟨w', shown, scene⟩ := applyPage_shown observing w page keep survives
    rw [shown, scene, Scene.dues_choose, Scene.dues_setView]

theorem dues_pageFailed (r : Nat) (token : Int) (fault : Fault) (keep : Bool) (w : Application) :
    ((pageFailed run key r token fault keep).after w).dues key = w.dues key := by
  have failed (w : Application) :
      ((failing run key r token fault.toFailure).after w).dues key = w.dues key := by
    obtain ⟨told, events, outcome, heard⟩ := failing_goes run key r token fault.toFailure w
    rw [Act.after_eq, outcome]
    refine (dues_finish observing r .failed _ told).trans ((congrArg (Scene.dues key) heard).trans ?_)
    exact (dues_emit observing _ _).trans (dues_updateBusy observing w)
  rw [pageFailed_eq]
  split
  · let marked := w.markReplaced key token Page.empty keep
    obtain ⟨shown, applied⟩ := applyPage_goes run key keep marked
    have kept : ((applyPage run key Page.empty keep).after marked).dues key = w.dues key :=
      (dues_applyPage observing Page.empty keep marked).trans rfl
    rw [Act.after_eq, applied] at kept
    rw [Act.after_change_bind, Act.after_bind, applied]
    dsimp only
    rw [Act.after_change_bind]
    exact (failed _).trans ((dues_emit observing _ shown).trans kept)
  · exact failed w

-- After a page was refused its token is not in flight, whatever it was before.
theorem pageRaised_over (token : Int) (keep : Bool) (w : Application) :
    let w' := (pageRaised run key token keep e).after w
    w'.calls = w.calls ∧ Entries.get? token (w'.table key).book.inFlight = none := by
  have untracked (u x : Application) (calls : u.calls = w.calls)
      (dues : x.dues key = (u.modifyBook key fun b => b.untrack token).dues key) :
      x.calls = w.calls ∧ Entries.get? token (x.table key).book.inFlight = none := by
    refine ⟨(congrArg Dues.asked dues).trans calls, ?_⟩
    have flights : (x.table key).book.inFlight = Entries.erase token (u.table key).book.inFlight := by
      refine (congrArg Dues.inFlight dues).trans ?_
      change ((u.modifyBook key fun b => b.untrack token).table key).book.inFlight = _
      rw [table_modifyBook]
      rfl
    rw [flights]
    exact Entries.get?_erase_same _ _
  unfold pageRaised
  dsimp only
  rw [Act.after_bind]
  cases found : Entries.get? token (w.table key).book.inFlight with
  | none =>
    rw [take_none found]
    exact ⟨rfl, found⟩
  | some r =>
    by_cases latest : token = (w.table key).book.latest
    · rw [take_latest found latest]
      exact untracked w _ rfl (dues_pageFailed observing r token e keep _)
    · rw [take_passed found latest]
      refine untracked (w.notePassedOver key token) _ ?_ (dues_finish observing r .stale id _)
      unfold notePassedOver
      dsimp only
      split <;> rfl

theorem supersede_asks (r : Nat) (tracked : Bool) (w : Application) :
    (supersede run key r tracked w).asks = w.asks := by
  have dropped : (supersede run key r false w).dues key = (w.superseding key r).dues key := by
    rw [supersede_eq]
    exact dues_discardEach observing _ _
  have same : (supersede run key r false w).asks = w.asks :=
    (Dues.asks key dropped).trans rfl
  cases tracked with
  | false => exact same
  | true => exact same

end Settling

-- Asked for the operation, the provider raises the fault, or delivers it at once.
def Refuses (w : Application) (o : ProviderOperation) (e : Fault) : Prop :=
  w.modeOf o = { raises := some e } ∨ w.modeOf o = { deliveries := [.fail e] }

theorem Refuses.still {o : ProviderOperation} (refuses : u.Refuses o e) (same : v.modes = u.modes) :
    v.Refuses o e := by
  unfold Refuses modeOf at refuses ⊢
  rw [same]
  exact refuses

theorem refused_outcome {complete : Outcome → Act Application Unit}
    {handle : Fault → Act Application Unit} {o : ProviderOperation}
    (same : ∀ e w, (complete { error := some e }).outcome w = (handle e).outcome w)
    (goes : ∀ e w, ((handle e).outcome w).1 = .ok ()) (refuses : w.Refuses o e) (u : Application) :
    (guarded complete handle (w.modeOf o)).outcome u = (handle e).outcome u := by
  rcases refuses with raises | fails
  · rw [raises]
    rfl
  · rw [fails, failing_outcome same goes]

section Asking

variable (observing : Observing run)

include observing

theorem askForPage_answered (token : Int) (query : Query) (keep : Bool) (refuses : w.Refuses .list e) :
    Answered w ((askForPage run key token query keep).after w) := by
  let c : OpenCall := { key, purpose := .page token keep, call := .list query }
  have asked : (askForPage run key token query keep).after w =
      (pageRaised run key token keep e).after (w.called c) := by
    rw [Act.after_eq, askForPage_outcome,
      refused_outcome (pageLoaded_fault token keep) (pageRaised_goes token keep) refuses]
    rfl
  obtain ⟨calls, grounded⟩ := pageRaised_over (e := e) observing token keep (w.called c)
  rw [asked]
  intro c' made
  rw [calls] at made
  rcases List.mem_append.mp made with before | new
  · exact .inl before
  · cases List.mem_singleton.mp new
    exact .inr (.page rfl grounded)

theorem issueEmpty_asks (r : Nat) (keep : Bool) (w : Application) :
    ((issueEmpty run key r keep).after w).asks = w.asks := by
  have dropped : (supersede run key r false w).asks = w.asks := supersede_asks observing r false w
  unfold issueEmpty
  rw [Act.after_change_bind, Act.after_change_bind, Act.after_change_bind, Act.after_bind]
  generalize supersede run key r false w = x at dropped ⊢
  let emptied := (x.spare key r).record (.mark key .emptied)
  obtain ⟨shown, applied⟩ := applyPage_goes run key keep emptied
  have kept : ((applyPage run key Page.empty keep).after emptied).dues key = emptied.dues key :=
    dues_applyPage observing Page.empty keep emptied
  rw [Act.after_eq, applied] at kept
  rw [applied]
  dsimp only
  rw [Act.after_change_bind, Act.after_change_bind, Act.after_change, ← dropped]
  refine Dues.asks key (Eq.trans ?_ (kept.trans rfl))
  refine (dues_finish observing r .done _ _).trans ((dues_emit observing _ _).trans ?_)
  exact dues_updateBusy observing shown

theorem issueQuery_answered (r : Nat) (keep : Bool) (refuses : w.Refuses .list e) :
    Answered w ((issueQuery run key r keep).after w) := by
  have dropped : (supersede run key r true w).asks = w.asks := supersede_asks observing r true w
  unfold issueQuery
  rw [Act.after_change_bind, Act.after_get_bind, Act.after_bind]
  generalize supersede run key r true w = tracked at dropped ⊢
  cases (tracked.view key).query with
  | error f =>
    rw [Act.outcome_onFault_error (Act.outcome_result _ _)]
    exact .none (congrArg Prod.fst dropped)
  | ok query =>
    rw [Act.outcome_onFault_ok (Act.outcome_result _ _)]
    simp only [Act.after_get_bind, Act.after_change_bind]
    generalize tracked.tokenOf key r = token
    let built := (host run key).change (fun b => b.modify r fun q => { q with query := some query })
      (tracked.record (.mark key (.queryBuilt token)))
    let issued := emit run key (.requestIssued token) (updateBusy run key built)
    have same : issued.dues key = tracked.dues key := (dues_emit observing _ _).trans
      ((dues_updateBusy observing built).trans (dues_modifyRequest r _ _))
    have asks : issued.asks = w.asks := (Dues.asks key same).trans dropped
    refine .after (congrArg Prod.fst asks) ?_
    exact askForPage_answered observing token query keep (refuses.still (congrArg Prod.snd asks))

theorem issue_answered (keep : Bool) (r : Nat) (refuses : w.Refuses .list e) :
    Answered w ((issue run key keep r).after w) := by
  unfold issue
  rw [Act.after_get_bind]
  dsimp only
  split
  · have discarded : ((host run key).discard r w).dues key = w.dues key :=
      dues_finish observing r .stale id w
    exact .none (congrArg Dues.asked discarded)
  · split
    · exact .none (congrArg Prod.fst (issueEmpty_asks observing r keep w))
    · exact issueQuery_answered observing r keep refuses

theorem subscribe_answered (r : Nat) (callback : Option (Callback Step)) (refuses : w.Refuses .list e) :
    Answered w ((subscribe run key r callback).after w) := by
  have registered : ((host run key).register r callback w).asks = w.asks := by
    unfold Host.register
    cases callback with
    | none => rfl
    | some c =>
      dsimp only
      split
      · exact Dues.asks key (dues_call observing r c w)
      · exact Dues.asks key (dues_modifyRequest r _ w)
  unfold subscribe Host.subscribe
  rw [Act.after_change_bind, Act.after_get_bind]
  refine .after (congrArg Prod.fst registered) ?_
  have refuses := refuses.still (congrArg Prod.snd registered)
  split
  · exact .none rfl
  · split
    · rw [Act.after_change_bind]
      exact .after rfl (issue_answered observing _ r (refuses.still rfl))
    · exact .none rfl

theorem refresh_answered (refuses : w.Refuses .list e) : Answered w ((refresh run key).after w) := by
  let r := (w.table key).book.requests.length
  let made := w.modifyTable key fun t => { t with book := t.book.create t.keepSelection }
  exact .after rfl (subscribe_answered observing r none (refuses.still (v := made) rfl))

end Asking

section Mutating

variable (observing : Observing run)

include observing

theorem mutate_answered (kind : MutationKind) (c : ProviderCall) (sequel : Sequel)
    (refuses : w.Refuses c.operation e) : Answered w ((mutate run key kind c sequel).after w) := by
  cases closed : (w.table key).closed with
  | true => exact .none (congrArg calls (mutate_closed kind c sequel closed))
  | false =>
    let m := w.mutations.length
    let x : Mutation := { key, kind, sequel }
    let asked := w.mutating run x c
    have busy := mutating_busy observing x c w
    have around := busy.surroundings
    have modes : asked.modes = w.modes := by
      have same := congrArg Application.modes around
      exact same
    have found : asked.mutation? m = some x := by
      have same : asked.mutations = w.mutations ++ [x] := congrArg Application.mutations around
      simp [mutation?, same, m]
    have opened : (asked.table key).closed = false := by
      have same := congrArg Table.closed (busy.tables key)
      exact same.trans closed
    have failed : (mutate run key kind c sequel).after w =
        (mutationDone run m { error := some e }).after asked := by
      rw [Act.after_eq, mutate_open kind c sequel closed]
      change ((guarded (mutationDone run m) (fun e => mutationDone run m { error := some e })
        (asked.modeOf c.operation)).outcome asked).2 = _
      rw [refused_outcome (fun _ _ => rfl) (mutationDone_goes m) (refuses.still modes)]
      rfl
    have reports : Reports run asked m x { error := some e } :=
      failure_reported found rfl opened fun r succeeds => by cases succeeds.error
    obtain ⟨-, calls, -⟩ := reports.unchanged observing
    have grown := first_grows observing.scripts found rfl { error := some e }
    obtain ⟨done, there, kept⟩ := grown.mutations m _ (settled_done found)
    rw [failed]
    intro c' made
    rw [calls, busy.calls] at made
    rcases List.mem_append.mp made with before | new
    · exact .inl before
    · cases List.mem_singleton.mp new
      exact .inr (.mutation rfl there (kept rfl))

end Mutating

section Rows

theorem answered_bind {α β : Type} {a : Act Application α} {f : α → Act Application β}
    (asks : (a.after w).asks = w.asks)
    (next : ∀ x u, u.modes = w.modes → Answered u ((f x).after u)) : Answered w ((a >>= f).after w) := by
  rw [Act.after_eq] at asks
  rw [Act.after_bind]
  rcases reached : a.outcome w with ⟨e | x, u⟩ <;> rw [reached] at asks
  · exact .none (congrArg Prod.fst asks)
  · exact .after (congrArg Prod.fst asks) (next x u (congrArg Prod.snd asks))

theorem report_asks (fault : Fault) (phrase text : Option String) (w : Application) :
    ((report fault phrase text).after w).asks = w.asks := by
  obtain ⟨r, ns, reported⟩ := report_outcome fault phrase text w
  rw [Act.after_eq, reported]
  refine Dues.asks 0 ?_
  unfold dues
  rw [scene_notices]
  rfl

theorem checkIds_asks (kind : MutationKind) (ids : List Value) (w : Application) :
    ((checkIds kind ids).after w).asks = w.asks := by
  unfold checkIds
  split
  · rw [Act.after_bind_pure]
    exact report_asks _ _ _ w
  · rfl

theorem checkParent_asks (kind : MutationKind) (w : Application) :
    ((checkParent key kind).after w).asks = w.asks := by
  unfold checkParent
  rw [Act.after_get_bind, Act.after_result_bind]
  cases (w.view key).parentId with
  | error e => rfl
  | ok parent =>
    dsimp only
    split
    · rw [Act.after_bind_pure]
      exact report_asks _ _ _ w
    · rfl

variable (observing : Observing run)

include observing

theorem removeRows_answered (ids : List Value) (sequel : Sequel)
    (refuses : w.Refuses (.mutation .remove) e) :
    Answered w ((removeRows run key ids sequel).after w) := by
  refine answered_bind (checkIds_asks .remove ids w) fun some u same => ?_
  split
  · exact mutate_answered observing .remove (.remove ids) sequel (refuses.still same)
  · exact .none rfl

theorem forParent_answered (kind : MutationKind) (call : Value → List Value → ProviderCall)
    (own : ∀ parent ids, (call parent ids).operation = .mutation kind) (ids : List Value)
    (sequel : Sequel) (refuses : w.Refuses (.mutation kind) e) :
    Answered w ((forParent run key kind call ids sequel).after w) := by
  refine answered_bind (checkParent_asks kind w) fun parent u same => ?_
  split
  · refine answered_bind (checkIds_asks kind ids u) fun some v still => ?_
    split
    · have refuses : v.Refuses (call parent ids).operation e := by
        rw [own]
        exact refuses.still (still.trans same)
      exact mutate_answered observing kind (call parent ids) sequel refuses
    · exact .none rfl
  · exact .none rfl

end Rows

inductive Asking (run : Run) (key : Nat) : ProviderOperation → Act Application Unit → Prop where
  | reload (r : Nat) (callback : Option (Callback Step)) :
    Asking run key .list (subscribe run key r callback)
  | refresh : Asking run key .list (refresh run key)
  | create (entity : Value) (sequel : Sequel) :
    Asking run key (.mutation .create) (createRow run key entity sequel)
  | update (entity : Value) (sequel : Sequel) :
    Asking run key (.mutation .update) (updateRow run key entity sequel)
  | remove (ids : List Value) (sequel : Sequel) :
    Asking run key (.mutation .remove) (removeRows run key ids sequel)
  | assign (ids : List Value) (sequel : Sequel) :
    Asking run key (.mutation .assign) (assignRows run key ids sequel)
  | unassign (ids : List Value) (sequel : Sequel) :
    Asking run key (.mutation .unassign) (unassignRows run key ids sequel)

namespace Asking

variable {o : ProviderOperation} {a : Act Application Unit}

theorem keeps (asking : Asking run key o a) (scripts : Scripts run) : Keeps a := by
  cases asking with
  | reload r callback => exact subscribe_keeps scripts r callback
  | refresh => exact refresh_keeps scripts
  | create entity sequel => exact mutate_keeps scripts .create _ sequel rfl
  | update entity sequel => exact mutate_keeps scripts .update _ sequel rfl
  | remove ids sequel => exact removeRows_keeps scripts ids sequel
  | assign ids sequel => exact assignRows_keeps scripts ids sequel
  | unassign ids sequel => exact unassignRows_keeps scripts ids sequel

theorem answered (asking : Asking run key o a) (observing : Observing run) (refuses : w.Refuses o e) :
    Answered w (a.after w) := by
  cases asking with
  | reload r callback => exact subscribe_answered observing r callback refuses
  | refresh => exact refresh_answered observing refuses
  | create entity sequel => exact mutate_answered observing .create (.create entity) sequel refuses
  | update entity sequel => exact mutate_answered observing .update (.update entity) sequel refuses
  | remove ids sequel => exact removeRows_answered observing ids sequel refuses
  | assign ids sequel =>
    exact forParent_answered observing .assign .assign (fun _ _ => rfl) ids sequel refuses
  | unassign ids sequel =>
    exact forParent_answered observing .unassign .unassign (fun _ _ => rfl) ids sequel refuses

end Asking

def withMode (o : ProviderOperation) (m : ProviderMode) (w : Application) : Application :=
  { w with modes := Entries.put o m w.modes }

theorem modeOf_withMode (o : ProviderOperation) (m : ProviderMode) (w : Application) :
    (w.withMode o m).modeOf o = m := by
  unfold modeOf withMode
  rw [Entries.get?_put_same]
  rfl

theorem withMode_softer (o : ProviderOperation) (e : Fault) (w : Application) :
    Softer (w.withMode o { raises := some e }) (w.withMode o { deliveries := [.fail e] }) := by
  refine ⟨rfl, fun other => ?_⟩
  by_cases same : other = o
  · subst same
    rw [modeOf_withMode, modeOf_withMode]
    exact .inr rfl
  · unfold modeOf withMode
    rw [Entries.get?_put_other same, Entries.get?_put_other same]
    exact .inl rfl

-- A provider that raises has failed. Whether a provider raises a fault when it is asked for an operation
-- or delivers that fault at once makes no difference to any run: all steps come to the same, and no more
-- differs afterwards than how the provider answers. Either way, what comes later for a call that was
-- made is ignored.
theorem raising_is_failing (reached : Reached w) (o : ProviderOperation) (e : Fault) :
    let raising := w.withMode o { raises := some e }
    let failing := w.withMode o { deliveries := [.fail e] }
    (∀ depth steps, ∃ modes, failing.played depth steps = { raising.played depth steps with modes }) ∧
    (∀ depth steps s, ((runTo depth s).outcome (failing.played depth steps)).1 =
      ((runTo depth s).outcome (raising.played depth steps)).1) ∧
    ∀ run, Observing run → ∀ key a, Asking run key o a → ∀ u, u = raising ∨ u = failing →
      ∀ c ∈ (a.after u).calls, c ∈ w.calls ∨ (a.after u).Ignores c := by
  intro raising failing
  have softer : Softer raising failing := withMode_softer o e w
  refine ⟨fun depth steps => ⟨_, (played_softer depth steps softer).same⟩, fun depth steps s => ?_, ?_⟩
  · exact (runTo_indifferent depth s (played_softer depth steps softer)).result
  · intro run observing key a asking u either c made
    have refuses : u.Refuses o e := by
      rcases either with rfl | rfl
      · exact .inl (modeOf_withMode o _ w)
      · exact .inr (modeOf_withMode o _ w)
    have here : (∀ k, Path k {} (u.strand [] k)) ∧ u.calls = w.calls := by
      rcases either with rfl | rfl <;> exact ⟨fun k => reached.path k, rfl⟩
    obtain ⟨paths, calls⟩ := here
    rcases asking.answered observing refuses c made with before | ended
    · exact .inl (calls ▸ before)
    · have woven := asking.keeps observing.scripts u
      exact .inr (ended.ignored made ((paths c.key).trans (woven.paths c.key [])))

def unreachable : Fault := .trouble (.run "unreachable")

-- A row is to be removed, and the provider cannot be reached. That the table is busy, that it is not any
-- more, and the failure are all there is to be heard.
theorem unreachable_fails :
    let w := opened { plan := {} }
    let raising := w.withMode (.mutation .remove) { raises := some unreachable }
    let failing := w.withMode (.mutation .remove) { deliveries := [.fail unreachable] }
    let remove : Step := .table 0 (.remove [.text "a"] .record)
    let left := (removeRows (runTo 0) 0 [.text "a"] .record).after raising
    (∃ modes, failing.played 1 [remove] = { raising.played 1 [remove] with modes }) ∧
    (raising.played 1 [remove]).heard.length = 3 ∧ ∃ c ∈ left.calls, left.Ignores c := by
  intro w raising failing remove left
  have reached : Reached w := opened_reached _
  obtain ⟨same, -, later⟩ := raising_is_failing reached (.mutation .remove) unreachable
  obtain ⟨c, there⟩ : ∃ c, left.calls[0]? = some c := Option.isSome_iff_exists.mp (by decide +kernel)
  have made : c ∈ left.calls := List.mem_of_getElem? there
  have none : w.calls = [] := List.length_eq_zero_iff.mp (by decide +kernel)
  have ignored := later (runTo 0) observing_none 0 _ (.remove [.text "a"] .record) raising (.inl rfl) c made
  rw [none] at ignored
  exact ⟨same 1 [remove], by decide +kernel, c, made, ignored.resolve_left List.not_mem_nil⟩

end PagedTable.Application
