import PagedTable.Proofs.MutationOutcome
import PagedTable.Proofs.Scene

namespace PagedTable

-- The fault is not raised but delivered, after all else that is delivered.
def ProviderMode.softened (m : ProviderMode) : ProviderMode :=
  match m.raises with
  | some e => { deliveries := m.deliveries ++ [.fail e] }
  | none => m

namespace Application

def modeOf (w : Application) (o : ProviderOperation) : ProviderMode := (Entries.get? o w.modes).getD {}

structure Softer (w w' : Application) : Prop where
  same : w' = { w with modes := w'.modes }
  modes : ∀ o, w'.modeOf o = w.modeOf o ∨ w'.modeOf o = (w.modeOf o).softened

def Even {α : Type} (x x' : Except Fault α × Application) : Prop :=
  ∃ r u u', x = (r, u) ∧ x' = (r, u') ∧ Softer u u'

theorem Even.result {α : Type} {x x' : Except Fault α × Application} (even : Even x x') : x'.1 = x.1 := by
  obtain ⟨r, u, u', rfl, rfl, -⟩ := even
  rfl

theorem Even.left {α : Type} {x x' : Except Fault α × Application} (even : Even x x') :
    Softer x.2 x'.2 := by
  obtain ⟨r, u, u', rfl, rfl, left⟩ := even
  exact left

-- An operation comes to the same in both, and leaves both as they were to each other.
def Indifferent {α : Type} (a : Act Application α) : Prop :=
  ∀ ⦃w w'⦄, Softer w w' → Even (a.outcome w) (a.outcome w')

namespace Softer

variable {w w' : Application}

theorem refl (w : Application) : Softer w w := ⟨rfl, fun _ => .inl rfl⟩

theorem read {β : Type} {f : Application → β} (softer : Softer w w')
    (blind : ∀ w modes, f { w with modes } = f w) : f w' = f w :=
  (congrArg f softer.same).trans (blind w w'.modes)

theorem table (softer : Softer w w') (key : Nat) : w'.table key = w.table key :=
  softer.read (f := fun w => w.table key) fun _ _ => rfl

theorem view (softer : Softer w w') (key : Nat) : w'.view key = w.view key :=
  congrArg Table.view (softer.table key)

theorem blind {f : Application → Application} (softer : Softer w w')
    (blind : ∀ w modes, f { w with modes } = { f w with modes }) : Softer (f w) (f w') := by
  have same : f w = { f w with modes := w.modes } := blind w w.modes
  have kept : (f w).modes = w.modes := by rw [same]
  have changed : f w' = { f w with modes := w'.modes } :=
    (congrArg f softer.same).trans (blind w w'.modes)
  have there : (f w').modes = w'.modes := by rw [changed]
  refine ⟨by rw [there]; exact changed, fun o => ?_⟩
  unfold modeOf
  rw [there, kept]
  exact softer.modes o

theorem record (softer : Softer w w') (e : Event) : Softer (w.record e) (w'.record e) :=
  softer.blind (f := Application.record e) fun _ _ => rfl

theorem sight (softer : Softer w w') (key : Nat) (o : Occasion) :
    Softer (w.sight key o) (w'.sight key o) :=
  softer.blind (f := Application.sight key o) fun _ _ => rfl

theorem modifyTable (softer : Softer w w') (key : Nat) (f : Table → Table) :
    Softer (w.modifyTable key f) (w'.modifyTable key f) :=
  softer.blind (f := Application.modifyTable key f) fun _ _ => rfl

theorem modifyView (softer : Softer w w') (key : Nat) (f : TableView → TableView) :
    Softer (w.modifyView key f) (w'.modifyView key f) := softer.modifyTable key _

theorem modifyBook (softer : Softer w w') (key : Nat) (f : TableBook → TableBook) :
    Softer (w.modifyBook key f) (w'.modifyBook key f) := softer.modifyTable key _

theorem change (softer : Softer w w') (run : Run) (key : Nat) (f : TableBook → TableBook) :
    Softer ((host run key).change f w) ((host run key).change f w') := softer.modifyBook key f

theorem recordAll (softer : Softer w w') (events : List Event) :
    Softer (w.recordAll events) (w'.recordAll events) := by
  refine softer.blind (f := Application.recordAll events) fun w modes => ?_
  rw [recordAll_eq, recordAll_eq]

theorem notices (softer : Softer w w') (ns : List Notice) : Softer (w.notices ns) (w'.notices ns) :=
  softer.recordAll _

theorem shareBusy (softer : Softer w w') (key : Nat) (busy : Bool) :
    Softer (w.shareBusy key busy) (w'.shareBusy key busy) := by
  refine softer.blind (f := Application.shareBusy key busy) fun w modes => ?_
  unfold Application.shareBusy
  dsimp only
  rw [recordAll_eq, recordAll_eq]

theorem called (softer : Softer w w') (c : OpenCall) : Softer (w.called c) (w'.called c) :=
  softer.blind (f := Application.called c) fun _ _ => rfl

end Softer

section Composition

variable {α β : Type} {a : Act Application α}

theorem indifferent_pure (x : α) : Indifferent (pure x : Act Application α) :=
  fun _ _ softer => ⟨_, _, _, rfl, rfl, softer⟩

theorem indifferent_throw (e : Fault) : Indifferent (throw e : Act Application α) :=
  fun _ _ softer => ⟨_, _, _, rfl, rfl, softer⟩

theorem indifferent_result (r : Except Fault α) : Indifferent (Act.result r) :=
  fun _ _ softer => ⟨_, _, _, rfl, rfl, softer⟩

theorem indifferent_change {f : Application → Application}
    (keeps : ∀ {w w'}, Softer w w' → Softer (f w) (f w')) : Indifferent (Act.change f) :=
  fun _ _ softer => ⟨_, _, _, rfl, rfl, keeps softer⟩

theorem indifferent_bind {f : α → Act Application β} (first : Indifferent a)
    (second : ∀ x, Indifferent (f x)) : Indifferent (a >>= f) := by
  intro w w' softer
  obtain ⟨r, u, u', one, two, left⟩ := first softer
  rw [Act.outcome_bind, Act.outcome_bind, one, two]
  cases r with
  | error e => exact ⟨_, _, _, rfl, rfl, left⟩
  | ok x => exact second x left

theorem indifferent_get {f : Application → Act Application α}
    (blind : ∀ w modes, f { w with modes } = f w) (each : ∀ w, Indifferent (f w)) :
    Indifferent (get >>= f) := by
  intro w w' softer
  rw [Act.outcome_get_bind, Act.outcome_get_bind, softer.read blind]
  exact each w softer

theorem indifferent_attempt (indifferent : Indifferent a) : Indifferent a.attempt := by
  intro w w' softer
  obtain ⟨r, u, u', one, two, left⟩ := indifferent softer
  exact ⟨.ok r, u, u', by rw [Act.outcome_attempt, one], by rw [Act.outcome_attempt, two], left⟩

theorem indifferent_onFault {f : Application → Application} (indifferent : Indifferent a)
    (keeps : ∀ {w w'}, Softer w w' → Softer (f w) (f w')) : Indifferent (a.onFault f) := by
  intro w w' softer
  obtain ⟨r, u, u', one, two, left⟩ := indifferent softer
  rw [Act.outcome_onFault, Act.outcome_onFault, one, two]
  cases r with
  | error e => exact ⟨_, _, _, rfl, rfl, keeps left⟩
  | ok x => exact ⟨_, _, _, rfl, rfl, left⟩

theorem indifferent_if {c : Prop} [Decidable c] {b : Act Application α} (yes : Indifferent a)
    (no : Indifferent b) : Indifferent (if c then a else b) := by
  split
  · exact yes
  · exact no

theorem indifferent_update {f : Application → Application × Except Fault α}
    (blind : ∀ w modes, (f { w with modes }).2 = (f w).2)
    (keeps : ∀ {w w'}, Softer w w' → Softer (f w).1 (f w').1) : Indifferent (Act.update f) :=
  fun _ _ softer =>
    ⟨_, _, _, rfl, Prod.ext (softer.read (f := fun w => (f w).2) blind) rfl, keeps softer⟩

theorem indifferent_onView (key : Nat) (f : TableView → TableView × Except Fault α) :
    Indifferent (onView key f) :=
  indifferent_update (fun _ _ => rfl) fun softer =>
    softer.blind (f := fun w => w.modifyView key fun _ => (f (w.view key)).1) fun _ _ => rfl

theorem indifferent_report (fault : Fault) (phrase text : Option String) :
    Indifferent (report fault phrase text) := by
  refine indifferent_update (fun _ _ => rfl) fun {w w'} softer => ?_
  have shared : w'.workspace = w.workspace := softer.read fun _ _ => rfl
  rw [shared]
  exact softer.notices _

end Composition

section Answers

def guarded (complete : Outcome → Act Application Unit) (handle : Fault → Act Application Unit)
    (m : ProviderMode) : Act Application Unit := do
  match ← (answerAtOnce complete m.raises m.deliveries).attempt with
  | .ok () => pure ()
  | .error e => handle e

variable {complete : Outcome → Act Application Unit} {handle : Fault → Act Application Unit}

theorem asked_outcome (c : OpenCall) (w : Application) :
    (do
      match ← (callProvider c.key c.call c.purpose complete).attempt with
      | .ok () => pure ()
      | .error e => handle e : Act Application Unit).outcome w =
        (guarded complete handle (w.modeOf c.call.operation)).outcome (w.called c) := rfl

theorem answers_indifferent (delivered : ∀ o, Indifferent (complete o)) (raises : Option Fault)
    (deliveries : List Delivery) : Indifferent (answerAtOnce complete raises deliveries) := by
  induction deliveries with
  | nil =>
    cases raises with
    | none => exact indifferent_pure ()
    | some e => exact indifferent_throw e
  | cons d rest ih =>
    exact indifferent_bind (indifferent_result _) fun o => indifferent_bind (delivered o) fun _ => ih

theorem guarded_indifferent (delivered : ∀ o, Indifferent (complete o))
    (handled : ∀ e, Indifferent (handle e)) (m : ProviderMode) :
    Indifferent (guarded complete handle m) := by
  refine indifferent_bind (indifferent_attempt (answers_indifferent delivered _ _)) fun asked => ?_
  cases asked with
  | ok => exact indifferent_pure ()
  | error e => exact handled e

theorem guarded_outcome (m : ProviderMode) (w : Application) :
    (guarded complete handle m).outcome w =
      match (answerAtOnce complete m.raises m.deliveries).outcome w with
      | (.ok _, w) => (.ok (), w)
      | (.error e, w) => (handle e).outcome w := by
  unfold guarded
  rw [Act.outcome_bind, Act.outcome_attempt]
  rcases (answerAtOnce complete m.raises m.deliveries).outcome w with ⟨e | ⟨⟩, u⟩ <;> rfl

theorem guarded_cons (d : Delivery) (rest : List Delivery) (raises : Option Fault) (w : Application) :
    (guarded complete handle { deliveries := d :: rest, raises }).outcome w =
      match d.outcome with
      | .error e => (handle e).outcome w
      | .ok o =>
        match (complete o).outcome w with
        | (.ok _, w) => (guarded complete handle { deliveries := rest, raises }).outcome w
        | (.error e, w) => (handle e).outcome w := by
  rw [guarded_outcome]
  unfold answerAtOnce
  rw [Act.outcome_bind, Act.outcome_result]
  cases d.outcome with
  | error e => rfl
  | ok o =>
    dsimp only
    rw [Act.outcome_bind]
    rcases (complete o).outcome w with ⟨e | ⟨⟩, u⟩
    · rfl
    · exact (guarded_outcome { deliveries := rest, raises } u).symm

variable (same : ∀ e w, (complete { error := some e }).outcome w = (handle e).outcome w)
  (goes : ∀ e w, ((handle e).outcome w).1 = .ok ())

include same goes

theorem failing_outcome (e : Fault) (w : Application) :
    (guarded complete handle { deliveries := [.fail e] }).outcome w = (handle e).outcome w := by
  obtain ⟨u, ends⟩ : ∃ u, (handle e).outcome w = (.ok (), u) := ⟨_, Prod.ext (goes e w) rfl⟩
  rw [guarded_cons]
  change (match (complete { error := some e }).outcome w with | (.ok _, w) => _ | (.error e, w) => _) = _
  rw [same, ends]
  rfl

theorem raised_even (delivered : ∀ o, Indifferent (complete o)) (handled : ∀ e, Indifferent (handle e))
    (e : Fault) (deliveries : List Delivery) {w w' : Application} (softer : Softer w w') :
    Even ((guarded complete handle { deliveries, raises := some e }).outcome w)
      ((guarded complete handle { deliveries := deliveries ++ [.fail e] }).outcome w') := by
  induction deliveries generalizing w w' with
  | nil =>
    rw [List.nil_append, failing_outcome same goes]
    exact handled e softer
  | cons d rest ih =>
    rw [List.cons_append, guarded_cons, guarded_cons]
    cases d.outcome with
    | error f => exact handled f softer
    | ok o =>
      obtain ⟨r, u, u', one, two, left⟩ := delivered o softer
      dsimp only
      rw [one, two]
      cases r with
      | error f => exact handled f left
      | ok => exact ih left

theorem asking_indifferent (delivered : ∀ o, Indifferent (complete o))
    (handled : ∀ e, Indifferent (handle e)) (c : OpenCall) :
    Indifferent (do
      match ← (callProvider c.key c.call c.purpose complete).attempt with
      | .ok () => pure ()
      | .error e => handle e : Act Application Unit) := by
  intro w w' softer
  rw [asked_outcome, asked_outcome]
  rcases softer.modes c.call.operation with equal | milder
  · rw [equal]
    exact guarded_indifferent delivered handled _ (softer.called c)
  · rw [milder]
    obtain ⟨deliveries, none | e⟩ := w.modeOf c.call.operation
    · exact guarded_indifferent delivered handled _ (softer.called c)
    · exact raised_even same goes delivered handled e deliveries (softer.called c)

end Answers

variable {run : Run} {key : Nat} {w w' : Application}

section Calls

variable (scripts : ∀ s, Indifferent (run s))

include scripts

theorem follow_softer (steps : List Step) (softer : Softer w w') :
    Softer (follow run steps w) (follow run steps w') := by
  induction steps generalizing w w' with
  | nil => exact softer
  | cons step rest ih =>
    obtain ⟨r, u, u', one, two, left⟩ := scripts step softer
    unfold follow
    rw [one, two]
    exact ih (left.record _)

theorem slots_softer (slots : List Slot) (softer : Softer w w') :
    Softer (slots.foldl (fun w s => follow run s.steps w) w)
      (slots.foldl (fun w s => follow run s.steps w) w') := by
  induction slots generalizing w w' with
  | nil => exact softer
  | cons slot rest ih => exact ih (follow_softer scripts slot.steps softer)

theorem emit_softer (key : Nat) (signal : Signal) (softer : Softer w w') :
    Softer (emit run key signal w) (emit run key signal w') := by
  have told := (softer.record (.signal key signal)).sight key (.emitted signal)
  unfold emit
  dsimp only
  have looked : Softer
      (if signal.isObserved then ((w.record (.signal key signal)).sight key (.emitted signal)).look key
        else (w.record (.signal key signal)).sight key (.emitted signal))
      (if signal.isObserved then ((w'.record (.signal key signal)).sight key (.emitted signal)).look key
        else (w'.record (.signal key signal)).sight key (.emitted signal)) := by
    split
    · exact told.blind (f := look key) fun _ _ => rfl
    · exact told
  have waits := looked.read (f := fun w => w.waiting key signal.name) fun _ _ => rfl
  rw [waits]
  exact slots_softer scripts _ (looked.blind (f := unplug key signal.name) fun _ _ => rfl)

theorem updateBusy_softer (key : Nat) (softer : Softer w w') :
    Softer (updateBusy run key w) (updateBusy run key w') := by
  have marked := softer.record (.mark key .recounted)
  unfold updateBusy
  rw [softer.table key]
  dsimp only
  split
  · exact marked
  · exact emit_softer scripts key _ ((marked.modifyTable key _).shareBusy key _)

theorem setSelection_softer (selected : List Value) (softer : Softer w w') :
    Softer (setSelection run key selected w) (setSelection run key selected w') := by
  unfold setSelection
  rw [softer.view key]
  split
  · exact softer
  · exact emit_softer scripts key _ (softer.modifyView key _)

theorem clearSelection_softer (key : Nat) (softer : Softer w w') :
    Softer (clearSelection run key w) (clearSelection run key w') := by
  unfold clearSelection
  rw [softer.view key]
  split
  · exact softer
  · exact emit_softer scripts key _ (softer.modifyView key _)

theorem notify_indifferent (key : Nat) (c : Callback Step) (r : Nat) : Indifferent (notify run key c r) := by
  have calling : Indifferent (do
      Act.change (sight key (.called r))
      Act.change (follow run c.steps)
      if c.fails then throw callbackFault : Act Application Unit) := by
    refine indifferent_bind (indifferent_change fun softer => softer.sight key _) fun _ => ?_
    refine indifferent_bind (indifferent_change (follow_softer scripts c.steps)) fun _ => ?_
    exact indifferent_if (indifferent_throw _) (indifferent_pure ())
  refine indifferent_get (fun _ _ => rfl) fun w => ?_
  dsimp only
  split
  · exact indifferent_bind (indifferent_change fun softer => softer.record _) fun _ => calling
  · exact calling

theorem call_softer (r : Nat) (c : Callback Step) (softer : Softer w w') :
    Softer ((host run key).call r c w) ((host run key).call r c w') :=
  (notify_indifferent scripts key c r softer).left

theorem callAll_softer (r : Nat) (cs : List (Callback Step)) (softer : Softer w w') :
    Softer ((host run key).callAll r cs w) ((host run key).callAll r cs w') := by
  induction cs generalizing w w' with
  | nil => exact softer
  | cons c rest ih => exact ih (call_softer scripts r c softer)

theorem finish_softer (r : Nat) (status : RequestStatus)
    (f : Request (Callback Step) Bool → Request (Callback Step) Bool) (softer : Softer w w') :
    Softer ((host run key).finish r status f w) ((host run key).finish r status f w') := by
  unfold Host.finish
  rw [host_read, host_read, softer.table key]
  split
  · exact softer
  · split
    · exact softer
    · exact callAll_softer scripts r _ (softer.change run key _)

theorem discardEach_softer (rs : List Nat) (softer : Softer w w') :
    Softer ((host run key).discardEach rs w) ((host run key).discardEach rs w') := by
  induction rs generalizing w w' with
  | nil => exact softer
  | cons r rest ih => exact ih (finish_softer scripts r .stale id softer)

theorem discardAll_softer (key : Nat) (softer : Softer w w') :
    Softer ((host run key).discardAll w) ((host run key).discardAll w') := by
  unfold Host.discardAll
  rw [host_read, host_read, softer.table key]
  exact discardEach_softer scripts _ (softer.change run key _)

end Calls

section Loading

theorem newRequest_indifferent (keep : Option Bool) : Indifferent (newRequest key keep) := by
  refine indifferent_get (fun _ _ => rfl) fun w => ?_
  refine indifferent_bind (indifferent_change fun softer => softer.modifyTable key _) fun _ => ?_
  exact indifferent_pure _

theorem applyPage_goes (run : Run) (key : Nat) (keep : Bool) (w : Application) :
    ∃ w', (applyPage run key Page.empty keep).outcome w = (.ok (), w') := by
  obtain ⟨described, -, -, shown⟩ := applyPage_outcome run key Page.empty keep w
  have none : ({ w.view key with rows := Page.empty.rows, total :=
      Page.empty.total } : TableView).surviving keep Page.empty.rows = (_, .ok []) :=
    TableView.surviving_none _ keep
  rw [none] at shown
  exact ⟨_, shown⟩

theorem failing_goes (run : Run) (key r : Nat) (token : Int) (f : Failure) (w : Application) :
    ∃ told events, (failing run key r token f).outcome w =
        (.ok (), (host run key).fail r (.failure f) told) ∧
      told.scene =
        (emit run key (.requestError token f.message) (updateBusy run key w)).scene.hear events := by
  obtain ⟨told, reported, heard⟩ := report_scene (.failure f)
    (emit run key (.requestError token f.message) (updateBusy run key w))
  refine ⟨told, _, ?_, heard⟩
  unfold failing
  rw [Act.outcome_change_bind, Act.outcome_change_bind, Act.outcome_bind_ok reported]
  rfl

theorem pageFailed_goes (r : Nat) (token : Int) (fault : Fault) (keep : Bool) (w : Application) :
    ((pageFailed run key r token fault keep).outcome w).1 = .ok () := by
  have fails (w : Application) : ((failing run key r token fault.toFailure).outcome w).1 = .ok () := by
    obtain ⟨told, events, failed, -⟩ := failing_goes run key r token fault.toFailure w
    rw [failed]
  rw [pageFailed_eq]
  split
  · obtain ⟨shown, applied⟩ := applyPage_goes run key keep (w.markReplaced key token Page.empty keep)
    rw [Act.outcome_change_bind, Act.outcome_bind_ok applied, Act.outcome_change_bind]
    exact fails _
  · exact fails w

theorem pageRaised_goes (token : Int) (keep : Bool) (e : Fault) (w : Application) :
    ((pageRaised run key token keep e).outcome w).1 = .ok () := by
  unfold pageRaised takeRequest
  rw [Act.outcome_bind, Act.outcome_of]
  dsimp only
  split
  · rfl
  · exact pageFailed_goes _ token e keep _

theorem pageLoaded_fault (token : Int) (keep : Bool) (e : Fault) (w : Application) :
    (pageLoaded run key token keep { error := some e }).outcome w =
      (pageRaised run key token keep e).outcome w := by
  unfold pageLoaded pageRaised takeRequest
  rw [Act.outcome_bind, Act.outcome_bind, Act.outcome_of]
  dsimp only
  split
  · rfl
  · rw [Act.outcome_get_bind]
    rfl

theorem askForPage_outcome (token : Int) (query : Query) (keep : Bool) (w : Application) :
    (askForPage run key token query keep).outcome w =
      (guarded (pageLoaded run key token keep) (pageRaised run key token keep)
        (w.modeOf .list)).outcome
        (w.called { key, purpose := .page token keep, call := .list query }) := by
  unfold askForPage
  exact asked_outcome { key, purpose := .page token keep, call := .list query } w

variable (scripts : ∀ s, Indifferent (run s))

include scripts

theorem applyPage_indifferent (page : Page) (keep : Bool) :
    Indifferent (applyPage run key page keep) := by
  refine indifferent_bind (indifferent_change fun softer => softer.modifyView key _) fun _ => ?_
  refine indifferent_bind (indifferent_onView key _) fun selected => ?_
  exact indifferent_change (setSelection_softer scripts selected)

theorem pageFailed_indifferent (r : Nat) (token : Int) (fault : Fault) (keep : Bool) :
    Indifferent (pageFailed run key r token fault keep) := by
  have failed : Indifferent (failing run key r token fault.toFailure) := by
    refine indifferent_bind (indifferent_change (updateBusy_softer scripts key)) fun _ => ?_
    refine indifferent_bind (indifferent_change (emit_softer scripts key _)) fun _ => ?_
    refine indifferent_bind (indifferent_report _ _ _) fun _ => ?_
    exact indifferent_change (finish_softer scripts r .failed _)
  rw [pageFailed_eq]
  split
  · refine indifferent_bind (indifferent_change fun softer =>
      softer.blind (f := markReplaced key token Page.empty keep) fun _ _ => rfl) fun _ => ?_
    refine indifferent_bind (applyPage_indifferent scripts Page.empty keep) fun _ => ?_
    exact indifferent_bind (indifferent_change (emit_softer scripts key _)) fun _ => failed
  · exact failed

theorem takeRequest_indifferent (token : Int) : Indifferent (takeRequest run key token) := by
  intro w w' softer
  have noted : Softer (w.notePassedOver key token) (w'.notePassedOver key token) := by
    unfold notePassedOver noteLapse
    rw [softer.table key]
    dsimp only
    split
    · exact softer.record _
    · exact softer
  unfold takeRequest Host.take
  rw [Act.outcome_of, Act.outcome_of, host_read, host_read, noted.table key]
  split
  · exact ⟨_, _, _, rfl, rfl, noted⟩
  · rename_i r _
    have untracked := noted.change run key fun b => b.untrack token
    dsimp only
    rw [host_read, host_read, untracked.table key]
    split
    · exact ⟨_, _, _, rfl, rfl, untracked⟩
    · exact ⟨_, _, _, rfl, rfl, finish_softer scripts r .stale id untracked⟩

theorem pageRaised_indifferent (token : Int) (keep : Bool) (e : Fault) :
    Indifferent (pageRaised run key token keep e) := by
  refine indifferent_bind (takeRequest_indifferent scripts token) fun taken => ?_
  cases taken with
  | none => exact indifferent_pure ()
  | some r => exact pageFailed_indifferent scripts r token e keep

theorem pageLoaded_indifferent (token : Int) (keep : Bool) (o : Outcome) :
    Indifferent (pageLoaded run key token keep o) := by
  refine indifferent_bind (takeRequest_indifferent scripts token) fun taken => ?_
  cases taken with
  | none => exact indifferent_pure ()
  | some r =>
    refine indifferent_get (fun _ _ => rfl) fun w => ?_
    split
    · exact pageFailed_indifferent scripts r token _ keep
    · rename_i page _
      refine indifferent_bind (indifferent_change fun softer => ?_) fun _ => ?_
      · exact softer.blind (f := markReplaced key token page keep) fun _ _ => rfl
      refine indifferent_bind (indifferent_onFault (applyPage_indifferent scripts page keep)
        fun softer => softer.blind (f := noteStopped key .unshown) fun _ _ => rfl) fun _ => ?_
      refine indifferent_bind (indifferent_change (updateBusy_softer scripts key)) fun _ => ?_
      refine indifferent_bind (indifferent_change (emit_softer scripts key _)) fun _ => ?_
      refine indifferent_bind (indifferent_change (emit_softer scripts key _)) fun _ => ?_
      exact indifferent_change (finish_softer scripts r .done _)

theorem askForPage_indifferent (token : Int) (query : Query) (keep : Bool) :
    Indifferent (askForPage run key token query keep) := by
  unfold askForPage
  exact asking_indifferent (pageLoaded_fault token keep) (pageRaised_goes token keep)
    (fun o => pageLoaded_indifferent scripts token keep o)
    (fun e => pageRaised_indifferent scripts token keep e)
    { key, purpose := .page token keep, call := .list query }

theorem supersede_softer (r : Nat) (tracked : Bool) (softer : Softer w w') :
    Softer (supersede run key r tracked w) (supersede run key r tracked w') := by
  unfold supersede Host.add
  rw [softer.table key]
  have begun := softer.sight key (.began (.page (w.table key).book.nextToken))
  rw [host_read, host_read, begun.table key]
  have dropped := discardAll_softer scripts key (begun.change run key fun b => b.allot r)
  dsimp only
  split
  · exact dropped.change run key _
  · exact dropped

theorem issueEmpty_indifferent (r : Nat) (keep : Bool) : Indifferent (issueEmpty run key r keep) := by
  refine indifferent_bind (indifferent_change (supersede_softer scripts r false)) fun _ => ?_
  refine indifferent_bind (indifferent_change fun softer =>
    softer.blind (f := spare key r) fun _ _ => rfl) fun _ => ?_
  refine indifferent_bind (indifferent_change fun softer => softer.record _) fun _ => ?_
  refine indifferent_bind (applyPage_indifferent scripts Page.empty keep) fun _ => ?_
  refine indifferent_bind (indifferent_change (updateBusy_softer scripts key)) fun _ => ?_
  refine indifferent_bind (indifferent_change (emit_softer scripts key _)) fun _ => ?_
  exact indifferent_change (finish_softer scripts r .done _)

theorem issueQuery_indifferent (r : Nat) (keep : Bool) : Indifferent (issueQuery run key r keep) := by
  refine indifferent_bind (indifferent_change (supersede_softer scripts r true)) fun _ => ?_
  refine indifferent_get (fun _ _ => rfl) fun w => ?_
  refine indifferent_bind (indifferent_onFault (indifferent_result _) fun softer =>
    softer.blind (f := noteUnasked key r) fun _ _ => rfl) fun query => ?_
  refine indifferent_get (fun _ _ => rfl) fun w => ?_
  refine indifferent_bind (indifferent_change fun softer => softer.record _) fun _ => ?_
  refine indifferent_bind (indifferent_change fun softer => softer.change run key _) fun _ => ?_
  refine indifferent_bind (indifferent_change (updateBusy_softer scripts key)) fun _ => ?_
  refine indifferent_bind (indifferent_change (emit_softer scripts key _)) fun _ => ?_
  exact askForPage_indifferent scripts _ query keep

theorem issue_indifferent (keep : Bool) (r : Nat) : Indifferent (issue run key keep r) := by
  refine indifferent_get (fun _ _ => rfl) fun w => ?_
  refine indifferent_if (indifferent_change (finish_softer scripts r .stale id)) ?_
  exact indifferent_if (issueEmpty_indifferent scripts r keep) (issueQuery_indifferent scripts r keep)

theorem register_softer (r : Nat) (callback : Option (Callback Step)) (softer : Softer w w') :
    Softer ((host run key).register r callback w) ((host run key).register r callback w') := by
  have done (w : Application) : (host run key).isDone r w = (w.table key).book.isDone r := rfl
  unfold Host.register
  cases callback with
  | none => exact softer
  | some c =>
    rw [done, done, softer.table key]
    dsimp only
    split
    · exact call_softer scripts r c softer
    · exact softer.change run key _

theorem subscribe_indifferent (r : Nat) (callback : Option (Callback Step)) :
    Indifferent (subscribe run key r callback) := by
  refine indifferent_bind (indifferent_change (register_softer scripts r callback)) fun _ => ?_
  refine indifferent_get (fun _ _ => rfl) fun w => ?_
  split
  · exact indifferent_pure ()
  · refine indifferent_if ?_ (indifferent_pure ())
    refine indifferent_bind (indifferent_change fun softer => softer.change run key _) fun _ => ?_
    exact issue_indifferent scripts _ r

theorem refresh_indifferent : Indifferent (refresh run key) :=
  indifferent_bind (newRequest_indifferent none) fun r => subscribe_indifferent scripts r none

theorem close_softer (softer : Softer w w') : Softer (close run key w) (close run key w') := by
  unfold close
  rw [softer.table key]
  split
  · exact softer
  · have stopped := ((softer.modifyTable key fun t => { t with closed := true }).record
      (.mark key .closed)).sight key .closing
    exact updateBusy_softer scripts key ((discardAll_softer scripts key stopped).modifyTable key _)

end Loading

end Application

end PagedTable
