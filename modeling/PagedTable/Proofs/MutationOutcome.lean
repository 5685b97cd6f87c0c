import PagedTable.Proofs.Listening

namespace PagedTable

def Event.tellsBusy : Event → Bool
  | .mark _ .recounted | .shared _ _ | .signal _ (.busyChanged _) | .followed _ _ => true
  | _ => false

theorem Event.busy_plain {e : Event} (busy : e.tellsBusy = true) : e.isOutcome = false := by
  cases e <;> first | rfl | cases busy

def Table.atEase (t : Table) : Table := { t with busy := false, pending := 0 }

structure Outcome.Succeeds (o : Outcome) (r : MutationResult) : Prop where
  error : o.error = none
  result : o.result = .mutation r
  status : r.status = successStatus

-- What the one who asked for a mutation is told of its success.
def Sequel.told (s : Sequel) (key : Nat) (r : MutationResult) : List Event :=
  match s with
  | .nothing | .clearQuietly => []
  | .script _ _ _ => [.succeeded key r]

def Sequel.fails : Sequel → Bool
  | .script _ _ fails => fails
  | _ => false

namespace Application

-- What there is beside the tables, who is busy, what was asked of providers and what has happened.
def surroundings (w : Application) : Application :=
  { w with indicator := {}, tables := [], calls := [], slots := [], journal := [], sights := [] }

-- No more differs than who is busy, and what a provider was asked meanwhile.
structure OnlyBusy (asked : List OpenCall) (w w' : Application) : Prop where
  tables : ∀ key, (w'.table key).atEase = (w.table key).atEase
  surroundings : w'.surroundings = w.surroundings
  calls : w'.calls = w.calls ++ asked
  issued : w'.gist.issued = w.gist.issued
  told : ∃ new, w'.journal = new ++ w.journal ∧
    ∀ e ∈ new, e.tellsBusy = true ∨ ∃ c ∈ asked, e = .call c.key c.call

variable {run : Run} {key : Nat}

namespace OnlyBusy

variable {asked : List OpenCall} {u v w : Application}

theorem refl (w : Application) : OnlyBusy [] w w :=
  ⟨fun _ => rfl, rfl, (List.append_nil _).symm, rfl, [], rfl, fun _ member => nomatch member⟩

theorem trans {more : List OpenCall} (one : OnlyBusy asked u v) (two : OnlyBusy more v w) :
    OnlyBusy (asked ++ more) u w := by
  obtain ⟨new, journal, busy⟩ := one.told
  obtain ⟨newer, also, still⟩ := two.told
  refine ⟨fun key => (two.tables key).trans (one.tables key), two.surroundings.trans one.surroundings, ?_,
    two.issued.trans one.issued, newer ++ new, ?_, fun e member => ?_⟩
  · rw [two.calls, one.calls, List.append_assoc]
  · rw [also, journal, List.append_assoc]
  · rcases List.mem_append.mp member with there | there
    · exact (still e there).imp_right fun ⟨c, made, same⟩ => ⟨c, List.mem_append_right _ made, same⟩
    · exact (busy e there).imp_right fun ⟨c, made, same⟩ => ⟨c, List.mem_append_left _ made, same⟩

theorem record {e : Event} (busy : e.tellsBusy = true) (w : Application) : OnlyBusy [] w (w.record e) := by
  refine ⟨fun _ => rfl, rfl, (List.append_nil _).symm, rfl, [e], rfl, fun e' member => ?_⟩
  cases List.mem_singleton.mp member
  exact .inl busy

theorem recordAll {events : List Event} (busy : ∀ e ∈ events, e.tellsBusy = true) (w : Application) :
    OnlyBusy [] w (w.recordAll events) := by
  rw [recordAll_eq]
  refine ⟨fun _ => rfl, rfl, (List.append_nil _).symm, rfl, events.reverse, rfl, fun e member => ?_⟩
  exact .inl (busy e (List.mem_reverse.mp member))

theorem sight {o : Occasion} (plain : o.isIssue = false) (w : Application) :
    OnlyBusy [] w (w.sight key o) :=
  ⟨fun _ => rfl, rfl, (List.append_nil _).symm, congrArg Gist.issued (gist_sight plain), [], rfl,
    fun _ member => nomatch member⟩

theorem modifyTable {f : Table → Table} (same : ∀ t, (f t).atEase = t.atEase) (w : Application) :
    OnlyBusy [] w (w.modifyTable key f) := by
  refine ⟨fun k => ?_, rfl, (List.append_nil _).symm, rfl, [], rfl, fun _ member => nomatch member⟩
  by_cases own : k = key
  · subst own
    rw [table_modifyTable]
    exact same _
  · rw [table_modifyTable_other own]

theorem shareBusy (busy : Bool) (w : Application) : OnlyBusy [] w (w.shareBusy key busy) := by
  unfold Application.shareBusy
  let shared : Application :=
    { w with indicator := (if busy then w.indicator.acquire key else w.indicator.release key).1 }
  have turned : OnlyBusy [] w shared :=
    ⟨fun _ => rfl, rfl, (List.append_nil _).symm, rfl, [], rfl, fun _ member => nomatch member⟩
  refine turned.trans (recordAll (fun e member => ?_) shared)
  obtain ⟨b, -, rfl⟩ := List.mem_map.mp member
  rfl

theorem follow (observing : Observing run) (steps : List Step) (w : Application) :
    OnlyBusy [] w (follow run steps w) := by
  induction steps generalizing w with
  | nil => exact refl w
  | cons step rest ih =>
    have same : ((run step).outcome w).2 = w := observing step w
    unfold Application.follow
    dsimp only
    rw [same]
    exact (record rfl w).trans (ih _)

theorem announce (observing : Observing run) (busy : Bool) (w : Application) :
    OnlyBusy [] w (emit run key (.busyChanged busy) w) := by
  unfold emit
  have slots (slots : List Slot) (w : Application) :
      OnlyBusy [] w (slots.foldl (fun w s => Application.follow run s.steps w) w) := by
    induction slots generalizing w with
    | nil => exact refl w
    | cons slot rest ih => exact (follow observing slot.steps w).trans (ih _)
  have unplugged (w : Application) : OnlyBusy [] w (w.unplug key .busyChanged) :=
    ⟨fun _ => rfl, rfl, (List.append_nil _).symm, rfl, [], rfl, fun _ member => nomatch member⟩
  exact (((record rfl w).trans (sight rfl _)).trans (unplugged _)).trans (slots _ _)

theorem updateBusy (observing : Observing run) (key : Nat) (w : Application) :
    OnlyBusy [] w (updateBusy run key w) := by
  unfold Application.updateBusy
  have marked := record (e := .mark key .recounted) rfl w
  dsimp only
  split
  · exact marked
  · let turned (t : Table) : Table := { t with busy := isWaiting (w.table key) }
    have turning (w : Application) : OnlyBusy [] w (w.modifyTable key turned) :=
      modifyTable (f := turned) (fun _ => rfl) w
    refine (marked.trans (turning _)).trans ?_
    exact (shareBusy _ _).trans (announce observing _ _)

theorem gist (only : OnlyBusy [] u w) : w.gist = u.gist := by
  obtain ⟨new, journal, busy⟩ := only.told
  have none : new.filter Event.isOutcome = [] := by
    refine List.filter_eq_nil_iff.mpr fun e member => ?_
    rcases busy e member with tells | ⟨c, made, -⟩
    · simp [Event.busy_plain tells]
    · cases made
  have requests (k : Nat) : (w.table k).book.requests.length = (u.table k).book.requests.length := by
    have same := congrArg (fun t : Table => t.book.requests.length) (only.tables k)
    exact same
  have closed (k : Nat) : (w.table k).closed = (u.table k).closed := by
    have same := congrArg Table.closed (only.tables k)
    exact same
  have issued := only.issued
  simp only [Application.gist] at issued ⊢
  simp only [issued, journal, List.filter_append, none, List.nil_append, requests, closed]

end OnlyBusy

def concluding (run : Run) (m key : Nat) (w : Application) : Application :=
  updateBusy run key (w.settled m key)

-- What the provider answers at once to the call of a mutation; what it raises is a failure.
def answering (run : Run) (m : Nat) (c : ProviderCall) : Act Application Unit := do
  let mode := (Entries.get? c.operation (← get).modes).getD {}
  match ← (answerAtOnce (mutationDone run m) mode.raises mode.deliveries).attempt with
  | .ok () => pure ()
  | .error e => mutationDone run m { error := some e }

section Completing

variable {m : Nat} {x : Mutation} {w : Application}

theorem delivered_iff {kind : MutationKind} {o : Outcome} {r : MutationResult} :
    deliveredResult kind o = .ok r ↔ o.Succeeds r := by
  constructor
  · intro delivered
    unfold deliveredResult at delivered
    split at delivered
    · cases delivered
    · rename_i error
      split at delivered
      · rename_i result
        split at delivered
        · rename_i ok
          cases delivered
          exact ⟨error, result, by simpa [MutationResult.ok] using ok⟩
        · cases delivered
      · cases delivered
  · rintro ⟨error, result, status⟩
    simp [deliveredResult, error, result, MutationResult.ok, status]

theorem settled_done (found : w.mutation? m = some x) :
    (w.settled m x.key).mutation? m = some { x with done := true } := by
  have there : w.mutations[m]? = some x := found
  change (w.mutations.modify m _)[m]? = _
  simp [there]

theorem settled_busy (m key : Nat) (w : Application) :
    OnlyBusy [] (w.settleMutation m) (w.settled m key) := by
  let counted (t : Table) : Table := { t with pending := t.pending - 1 }
  have looked : OnlyBusy [] (w.settleMutation m) ((w.sight key (.completed m)).settleMutation m) :=
    ⟨fun _ => rfl, rfl, (List.append_nil _).symm, congrArg Gist.issued (gist_sight (w := w) rfl), [], rfl,
      fun _ member => nomatch member⟩
  exact looked.trans (.modifyTable (f := counted) (fun _ => rfl) _)

theorem again_nothing (found : w.mutation? m = some x) (done : x.done = true) (o : Outcome) :
    (mutationDone run m o).outcome w = (.ok (), w) := by
  unfold mutationDone
  rw [Act.outcome_get_bind, found]
  dsimp only
  rw [if_pos done]
  rfl

theorem first_outcome (found : w.mutation? m = some x) (fresh : x.done = false) (o : Outcome) :
    (mutationDone run m o).outcome w =
      if (w.table x.key).closed then (.ok (), w.settled m x.key)
      else (concludeMutation run x o).outcome (w.concluding run m x.key) := by
  unfold mutationDone
  rw [Act.outcome_get_bind, found]
  dsimp only
  rw [if_neg (by simp [fresh]), Act.outcome_change_bind, Act.outcome_change_bind, Act.outcome_change_bind,
    Act.outcome_get_bind]
  change (if ((w.settled m x.key).table x.key).closed then _ else _ : Act Application Unit).outcome
    (w.settled m x.key) = _
  rw [settled_closed]
  split
  · rfl
  · rw [Act.outcome_change_bind]
    rfl

theorem first_closed (found : w.mutation? m = some x) (fresh : x.done = false)
    (closed : (w.table x.key).closed = true) (o : Outcome) :
    (mutationDone run m o).outcome w = (.ok (), w.settled m x.key) := by
  rw [first_outcome found fresh, if_pos closed]

theorem first_open (found : w.mutation? m = some x) (fresh : x.done = false)
    (opened : (w.table x.key).closed = false) (o : Outcome) :
    (mutationDone run m o).outcome w =
      (concludeMutation run x o).outcome (w.concluding run m x.key) := by
  rw [first_outcome found fresh, if_neg (by simp [opened])]

theorem showSuccess_outcome (key : Nat) (kind : MutationKind) (w : Application) :
    ∃ pair text, (w.view key).plan.message kind.successName = .ok pair ∧
      w.workspace.pairWording pair [] = .ok text ∧
      (showSuccess key kind).outcome w = (.ok (), w.notices (w.workspace.showMessage text)) := by
  obtain ⟨pair, message⟩ := (w.view key).plan.message_default kind.success_known
  obtain ⟨text, worded⟩ := w.workspace.pairWording_plain pair
  refine ⟨pair, text, message, worded, ?_⟩
  unfold showSuccess
  rw [Act.outcome_get_bind, Act.outcome_bind, Act.outcome_result, message]
  dsimp only
  rw [Act.outcome_bind, Act.outcome_result, worded]
  rfl

theorem reportMutation_outcome (key : Nat) (kind : MutationKind) (fault : Fault) (w : Application) :
    ∃ pair box, (w.view key).plan.message kind.errorName = .ok pair ∧
      w.workspace.failureBox fault.toFailure (some pair.key) (some pair.text) [] = .ok box ∧
      (reportMutation key kind fault).outcome w =
        (.ok (), w.notices (w.workspace.announce fault.toFailure ++ box)) := by
  obtain ⟨pair, message⟩ := (w.view key).plan.message_default kind.error_known
  obtain ⟨box, boxed, handled⟩ :=
    w.workspace.handleFailure_plain fault (some pair.key) (some pair.text)
  refine ⟨pair, box, message, boxed, ?_⟩
  unfold reportMutation
  rw [Act.outcome_get_bind, Act.outcome_bind, Act.outcome_result, message]
  dsimp only
  rw [Act.outcome_bind, report, Act.outcome_update, handled]
  rfl

theorem runSequel_outcome (observing : Observing run) (key : Nat) (s : Sequel) (r : MutationResult)
    (w : Application) :
    ((runSequel run key s r).outcome w).1 = (if s.fails then .error sequelFault else .ok ()) ∧
      ((runSequel run key s r).after w).gist =
        { w.gist with outcomes := s.told key r ++ w.gist.outcomes } := by
  have cleared (w : Application) : (clearSelection run key w).gist = w.gist :=
    gist_clearSelection observing w
  cases s with
  | nothing => exact ⟨rfl, rfl⟩
  | clearQuietly => exact ⟨rfl, cleared w⟩
  | script clears steps fails =>
    let told := w.record (.succeeded key r)
    let ready := if clears then clearSelection run key told else told
    have same : ready.gist = told.gist := by
      cases clears with
      | true => exact cleared told
      | false => rfl
    have left : (runSequel run key (.script clears steps fails) r).outcome w =
        (if fails then .error sequelFault else .ok (), Application.follow run steps ready) := by
      cases fails <;> rfl
    refine ⟨congrArg Prod.fst left, ?_⟩
    rw [Act.after_eq, left]
    exact (gist_follow observing ready steps).trans same

end Completing

section Beginning

variable {w : Application}

theorem called_busy (c : OpenCall) (w : Application) : OnlyBusy [c] w (w.called c) := by
  have looked : (w.sight c.key (.asked c.purpose.errand c.call)).gist = w.gist := gist_sight rfl
  refine ⟨fun _ => rfl, rfl, rfl, congrArg Gist.issued looked, [.call c.key c.call], rfl,
    fun e member => .inr ?_⟩
  exact ⟨c, List.mem_singleton.mpr rfl, List.mem_singleton.mp member⟩

theorem mutating_busy (observing : Observing run) (x : Mutation) (c : ProviderCall) (w : Application) :
    OnlyBusy [{ key := x.key, purpose := .mutation w.mutations.length, call := c }]
      { w with mutations := w.mutations ++ [x] } (w.mutating run x c) := by
  let begun : Application := { w with mutations := w.mutations ++ [x] }
  let counted (t : Table) : Table := { t with pending := t.pending + 1 }
  have looked : OnlyBusy [] begun (begun.sight x.key (.began (.mutation w.mutations.length))) :=
    .sight rfl begun
  have starting : OnlyBusy [] begun (w.starting x) :=
    looked.trans (.modifyTable (f := counted) (fun _ => rfl) _)
  exact (starting.trans (.updateBusy observing x.key _)).trans (called_busy _ _)

theorem mutate_open (kind : MutationKind) (c : ProviderCall) (sequel : Sequel)
    (opened : (w.table key).closed = false) :
    (mutate run key kind c sequel).outcome w =
      (answering run w.mutations.length c).outcome (w.mutating run { key, kind, sequel } c) := by
  unfold mutate
  rw [Act.outcome_get_bind, if_neg (by simp [opened]), Act.outcome_get_bind]
  simp only [Act.outcome_change_bind]
  rfl

end Beginning

-- Nothing differs but which mutations are left, and how many of them are counted.
structure Unseen (w w' : Application) : Prop extends OnlyBusy [] w w' where
  busy : ∀ key, (w'.table key).busy = (w.table key).busy
  indicator : w'.indicator = w.indicator
  slots : w'.slots = w.slots
  journal : w'.journal = w.journal

-- The provider is asked, and what it answers at once are completions. By then the mutation has changed
-- no more than who is busy.
structure Begins (run : Run) (w : Application) (x : Mutation) (c : ProviderCall) : Prop where
  asked : (mutate run x.key x.kind c x.sequel).outcome w =
    (answering run w.mutations.length c).outcome (w.mutating run x c)
  quiet : Observing run →
    OnlyBusy [{ key := x.key, purpose := .mutation w.mutations.length, call := c }]
      { w with mutations := w.mutations ++ [x] } (w.mutating run x c)

-- One failure is reported, under the message of the operation. Nobody is told of a success, no page is
-- asked for, and tables are as they were.
structure Reports (run : Run) (w : Application) (m : Nat) (x : Mutation) (o : Outcome) : Prop where
  reported : ∃ e pair box, deliveredResult x.kind o = .error e ∧
    ((w.concluding run m x.key).view x.key).plan.message x.kind.errorName = .ok pair ∧
    (w.concluding run m x.key).workspace.failureBox e.toFailure (some pair.key) (some pair.text) [] =
      .ok box ∧
    (mutationDone run m o).outcome w = (.ok (), (w.concluding run m x.key).notices
      ((w.concluding run m x.key).workspace.announce e.toFailure ++ box))
  unchanged : Observing run → ((mutationDone run m o).after w).gist = w.gist ∧
    ((mutationDone run m o).after w).calls = w.calls ∧
    ∀ key, (((mutationDone run m o).after w).table key).atEase = (w.table key).atEase

-- The success is shown, then the one who asked is called, and then the table is refreshed, unless that
-- fails. Where listeners only observe, each of these happens once.
structure Rewards (run : Run) (w : Application) (m : Nat) (x : Mutation) (o : Outcome)
    (r : MutationResult) : Prop where
  succeeded : ∃ pair text,
    ((w.concluding run m x.key).view x.key).plan.message x.kind.successName = .ok pair ∧
    (w.concluding run m x.key).workspace.pairWording pair [] = .ok text ∧
    (mutationDone run m o).outcome w =
      (runSequel run x.key x.sequel r >>= fun _ => refresh run x.key).outcome
        ((w.concluding run m x.key).notices
          ((w.concluding run m x.key).workspace.showMessage text)) ∧
    (Observing run → ∃ issued, (∀ g ∈ issued, g.key = x.key) ∧
      issued.length = (if x.sequel.fails then 0 else 1) ∧
      ((mutationDone run m o).after w).gist =
        { w.gist with
          issued := issued ++ w.gist.issued
          outcomes := x.sequel.told x.key r ++
            ((w.workspace.showMessage text).map .notice ++ w.gist.outcomes)
          requests := fun k => w.gist.requests k + if k = x.key then issued.length else 0 })

-- What a completion of a mutation leads to. Only the first has an effect, whatever happens after it.
structure Ends (run : Run) (w : Application) (m : Nat) (x : Mutation) (o : Outcome) : Prop where
  again : x.done = true → (mutationDone run m o).outcome w = (.ok (), w)
  once : x.done = false → Grows (w.settled m x.key) ((mutationDone run m o).after w) ∧
    ∀ u, Grows (w.settled m x.key) u → ∀ o', (mutationDone run m o').outcome u = (.ok (), u)
  late : x.done = false → (w.table x.key).closed = true →
    (mutationDone run m o).outcome w = (.ok (), w.settled m x.key) ∧
      Unseen (w.settleMutation m) (w.settled m x.key)
  failed : x.done = false → (w.table x.key).closed = false → (∀ r, ¬ o.Succeeds r) →
    Reports run w m x o
  succeeded : x.done = false → (w.table x.key).closed = false → ∀ r, o.Succeeds r →
    Rewards run w m x o r

section Outcomes

variable {m : Nat} {x : Mutation} {w : Application}

theorem concluding_busy (observing : Observing run) (m key : Nat) (w : Application) :
    OnlyBusy [] (w.settleMutation m) (w.concluding run m key) :=
  (settled_busy m key w).trans (.updateBusy observing key _)

theorem settled_unseen (m key : Nat) (w : Application) :
    Unseen (w.settleMutation m) (w.settled m key) := by
  refine ⟨settled_busy m key w, fun k => ?_, rfl, rfl, rfl⟩
  unfold settled countDown
  by_cases own : k = key
  · subst own
    rw [table_modifyTable]
    rfl
  · rw [table_modifyTable_other own]
    rfl

theorem first_grows (scripts : Scripts run) (found : w.mutation? m = some x) (fresh : x.done = false)
    (o : Outcome) : Grows (w.settled m x.key) ((mutationDone run m o).after w) := by
  rw [Act.after_eq]
  cases closed : (w.table x.key).closed with
  | true =>
    rw [first_closed found fresh closed]
    exact .refl _
  | false =>
    rw [first_open found fresh closed]
    exact (updateBusy_shift scripts x.key _).grows.trans (concludeMutation_keeps scripts x o _).grows

theorem first_only (found : w.mutation? m = some x) {u : Application}
    (later : Grows (w.settled m x.key) u) (o : Outcome) :
    (mutationDone run m o).outcome u = (.ok (), u) := by
  obtain ⟨done, still, kept⟩ := later.mutations m _ (settled_done found)
  exact again_nothing still (kept rfl) o

theorem failure_reported (found : w.mutation? m = some x) (fresh : x.done = false)
    (opened : (w.table x.key).closed = false) {o : Outcome} (failed : ∀ r, ¬ o.Succeeds r) :
    Reports run w m x o := by
  have first : (mutationDone run m o).outcome w =
      (concludeMutation run x o).outcome (w.concluding run m x.key) := first_open found fresh opened o
  have concluded (e : Fault) (delivered : deliveredResult x.kind o = .error e) :
      concludeMutation run x o = reportMutation x.key x.kind e := by
    unfold concludeMutation
    rw [delivered]
  cases delivered : deliveredResult x.kind o with
  | ok r => exact absurd (delivered_iff.mp delivered) (failed r)
  | error e =>
    rw [concluded e delivered] at first
    obtain ⟨pair, box, message, boxed, reported⟩ :=
      reportMutation_outcome x.key x.kind e (w.concluding run m x.key)
    rw [reported] at first
    refine ⟨⟨e, pair, box, delivered, message, boxed, first⟩, fun observing => ?_⟩
    have busy := concluding_busy observing m x.key w
    rw [Act.after_eq, first]
    refine ⟨?_, ?_, fun key => ?_⟩
    · refine (gist_notices fun n member => ?_).trans busy.gist
      exact (List.mem_append.mp member).elim (announce_plain _ n) (failureBox_plain boxed n)
    · exact (calls_notices _).trans (busy.calls.trans (List.append_nil _))
    · have same (ns : List Notice) (y : Application) : (y.notices ns).table key = y.table key := by
        unfold notices
        rw [recordAll_eq]
        rfl
      rw [same]
      exact busy.tables key

theorem success_gist (text : String) (w : Application) :
    (w.notices (w.workspace.showMessage text)).gist =
      { w.gist with outcomes := (w.workspace.showMessage text).map .notice ++ w.gist.outcomes } := by
  unfold Workspace.showMessage
  cases w.workspace.window with
  | none => rfl
  | some window =>
    dsimp only
    split <;> rfl

theorem sequel_gist (observing : Observing run) (key : Nat) (s : Sequel) (r : MutationResult)
    {w : Application} (opened : (w.table key).closed = false) :
    ∃ issued, (∀ g ∈ issued, g.key = key) ∧ issued.length = (if s.fails then 0 else 1) ∧
      ((runSequel run key s r >>= fun _ => refresh run key).after w).gist =
        { w.gist with
          issued := issued ++ w.gist.issued
          outcomes := s.told key r ++ w.gist.outcomes
          requests := fun k => w.gist.requests k + if k = key then issued.length else 0 } := by
  obtain ⟨result, sequel⟩ := runSequel_outcome observing key s r w
  rw [Act.after_eq] at sequel ⊢
  rw [Act.outcome_bind]
  rcases followed : (runSequel run key s r).outcome w with ⟨e | ⟨⟩, z⟩ <;>
    rw [followed] at result sequel
  · have fails : s.fails = true := Decidable.by_contra fun other => by
      rw [if_neg other] at result
      cases result
    refine ⟨[], fun _ member => (nomatch member), by rw [if_pos fails]; rfl, ?_⟩
    change z.gist = _ at sequel
    change z.gist = _
    rw [sequel]
    simp only [List.nil_append, List.length_nil, ite_self, Nat.add_zero]
  · have goes : ¬ s.fails = true := fun fails => by
      rw [if_pos fails] at result
      cases result
    change z.gist = _ at sequel
    have still : (z.table key).closed = false :=
      (congrFun (congrArg Gist.closed sequel) key).trans opened
    obtain ⟨g, own, refreshed⟩ := refresh_gist observing still
    refine ⟨[g], fun h member => ?_, by rw [if_neg goes]; rfl, ?_⟩
    · rw [List.mem_singleton.mp member]
      exact own
    · refine refreshed.trans ?_
      rw [sequel]
      rfl

theorem success_follows (found : w.mutation? m = some x) (fresh : x.done = false)
    (opened : (w.table x.key).closed = false) {o : Outcome} {r : MutationResult}
    (succeeds : o.Succeeds r) : Rewards run w m x o r := by
  have first : (mutationDone run m o).outcome w =
      (concludeMutation run x o).outcome (w.concluding run m x.key) := first_open found fresh opened o
  have concluded : concludeMutation run x o = (do
      showSuccess x.key x.kind
      runSequel run x.key x.sequel r
      refresh run x.key) := by
    unfold concludeMutation
    rw [delivered_iff.mpr succeeds]
  obtain ⟨pair, text, message, worded, shown⟩ :=
    showSuccess_outcome x.key x.kind (w.concluding run m x.key)
  rw [concluded, Act.outcome_bind_ok shown] at first
  refine ⟨pair, text, message, worded, first, fun observing => ?_⟩
  have busy := concluding_busy observing m x.key w
  have workspace : (w.concluding run m x.key).workspace = w.workspace := by
    have same := congrArg Application.workspace busy.surroundings
    exact same
  have told := success_gist text (w.concluding run m x.key)
  rw [Act.after_eq, first, ← Act.after_eq]
  generalize (w.concluding run m x.key).notices _ = y at told
  rw [workspace, busy.gist] at told
  have still : (y.table x.key).closed = false :=
    (congrFun (congrArg Gist.closed told) x.key).trans opened
  obtain ⟨issued, own, one, gist⟩ := sequel_gist observing x.key x.sequel r still
  refine ⟨issued, own, one, ?_⟩
  rw [gist, told]
  rfl

end Outcomes

-- A mutation of an open table begins by asking the provider, and changes no more than the busy state
-- until it completes. Its first completion is that of a success or reports one failure, unless the table
-- was closed before; completions after the first have no effect.
theorem mutation_outcome (depth : Nat) (w : Application) :
    (∀ key kind c sequel, (w.table key).closed = false →
      Begins (runTo depth) w { key, kind, sequel } c) ∧
    ∀ m x, w.mutation? m = some x → ∀ o, Ends (runTo depth) w m x o := by
  constructor
  · intro key kind c sequel opened
    exact ⟨mutate_open kind c sequel opened, fun observing => mutating_busy observing _ c w⟩
  · intro m x found o
    constructor
    · exact fun done => again_nothing found done o
    · intro fresh
      exact ⟨first_grows (runTo_keeps depth) found fresh o, fun u later => first_only found later⟩
    · intro fresh closed
      exact ⟨first_closed found fresh closed o, settled_unseen m x.key w⟩
    · exact fun fresh opened failed => failure_reported found fresh opened failed
    · exact fun fresh opened r succeeds => success_follows found fresh opened succeeds

def updating : Application :=
  (opened { plan := {} }).played 3 [.table 0 (.update .null .record)]

theorem updating_succeeds :
    let w := (mutationDone (runTo 0) 0 { result := .mutation {} }).after updating
    (∃ text, w.gist.outcomes = [.succeeded 0 {}, .notice (.status text)]) ∧ w.gist.issued.length = 1 ∧
      (mutationDone (runTo 0) 0 { error := some sequelFault }).outcome w = (.ok (), w) := by
  let x : Mutation := { key := 0, kind := .update, sequel := .record }
  have found : updating.mutation? 0 = some x := by with_unfolding_all rfl
  have opened : (updating.table 0).closed = false := by decide +kernel
  have ends := (mutation_outcome 0 updating).2 0 x found { result := .mutation {} }
  obtain ⟨grows, only⟩ := ends.once rfl
  obtain ⟨pair, text, -, -, -, once⟩ := (ends.succeeded rfl opened {} ⟨rfl, rfl, rfl⟩).succeeded
  obtain ⟨issued, -, one, gist⟩ := once observing_none
  refine ⟨⟨text, ?_⟩, ?_, only _ grows _⟩
  · have before : updating.gist.outcomes = [] := List.length_eq_zero_iff.mp (by decide +kernel)
    have status : updating.workspace.window.map Window.statusBar = some true := by decide +kernel
    obtain ⟨window, there, bar⟩ := Option.map_eq_some_iff.mp status
    rw [gist, before, Workspace.showMessage, there]
    simp [bar, Sequel.told, Sequel.record, x]
  · have before : updating.gist.issued.length = 0 := by decide +kernel
    rw [gist, List.length_append, one, before]
    rfl

end Application

end PagedTable
