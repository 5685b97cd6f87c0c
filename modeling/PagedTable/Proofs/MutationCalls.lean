import PagedTable.Proofs.Lasting.Running

namespace PagedTable

def OpenCall.mutates (c : OpenCall) : Bool :=
  match c.purpose with
  | .mutation _ => true
  | .page _ _ => false

namespace Application

def callsFor (m : Nat) (w : Application) : List OpenCall :=
  w.calls.filter fun c => c.purpose.errand = .mutation m

def mutationCalls (w : Application) : List OpenCall := w.calls.filter OpenCall.mutates

-- Only for mutations that have begun was a provider asked.
def Accountable (w : Application) : Prop := ∀ m, w.mutations.length ≤ m → w.callsFor m = []

-- For the mutations that had begun nothing more was asked.
structure AsksNoMore (w w' : Application) : Prop where
  begun : w.mutations.length ≤ w'.mutations.length
  same : ∀ m < w.mutations.length, w'.callsFor m = w.callsFor m
  accountable : w.Accountable → w'.Accountable

section Calls

variable {u v w : Application}

theorem callsFor_called (m : Nat) (c : OpenCall) (w : Application) : (w.called c).callsFor m =
    w.callsFor m ++ (if c.purpose.errand = .mutation m then [c] else []) := by
  have split := List.filter_append (p := fun c => decide (c.purpose.errand = .mutation m)) w.calls [c]
  refine split.trans (congrArg (w.callsFor m ++ ·) ?_)
  by_cases own : c.purpose.errand = .mutation m <;> simp [own]

theorem mutationCalls_called (c : OpenCall) (w : Application) : (w.called c).mutationCalls =
    w.mutationCalls ++ (if c.mutates then [c] else []) := by
  have split := List.filter_append (p := OpenCall.mutates) w.calls [c]
  refine split.trans (congrArg (w.mutationCalls ++ ·) ?_)
  cases own : c.mutates <;> simp [own]

namespace AsksNoMore

theorem trans (one : AsksNoMore u v) (two : AsksNoMore v w) : AsksNoMore u w where
  begun := Nat.le_trans one.begun two.begun
  same m begun := (two.same m (Nat.lt_of_lt_of_le begun one.begun)).trans (one.same m begun)
  accountable := two.accountable ∘ one.accountable

theorem quiet (calls : v.calls = w.calls) (begun : w.mutations.length ≤ v.mutations.length) :
    AsksNoMore w v := by
  have same (m : Nat) : v.callsFor m = w.callsFor m := by
    unfold callsFor
    rw [calls]
  exact ⟨begun, fun m _ => same m, fun accountable m free =>
    (same m).trans (accountable m (Nat.le_trans begun free))⟩

theorem paged (key : Nat) (token : Int) (keep : Bool) (call : ProviderCall) (w : Application) :
    AsksNoMore w (w.called { key, purpose := .page token keep, call }) := by
  have same (m : Nat) : (w.called { key, purpose := .page token keep, call }).callsFor m = w.callsFor m := by
    rw [callsFor_called, if_neg nofun, List.append_nil]
  exact ⟨Nat.le_refl _, fun m _ => same m, fun accountable m free => (same m).trans (accountable m free)⟩

theorem starting (x : Mutation) (w : Application) :
    (w.starting x).mutations.length = w.mutations.length + 1 ∧ AsksNoMore w (w.starting x) := by
  have more : (w.starting x).mutations.length = w.mutations.length + 1 := List.length_append
  exact ⟨more, quiet rfl (by omega)⟩

theorem asked (x : Mutation) (c : ProviderCall) (counted : AsksNoMore (w.starting x) u) :
    AsksNoMore w (u.called { key := x.key, purpose := .mutation w.mutations.length, call := c }) := by
  obtain ⟨more, began⟩ := starting x w
  have ready := began.trans counted
  have others {m : Nat} (other : m ≠ w.mutations.length) :
      (u.called { key := x.key, purpose := .mutation w.mutations.length, call := c }).callsFor m =
        u.callsFor m := by
    rw [callsFor_called, if_neg (by simpa [CallPurpose.errand] using Ne.symm other), List.append_nil]
  refine ⟨ready.begun, fun m begun => ?_, fun accountable m free => ?_⟩
  · exact (others (Nat.ne_of_lt begun)).trans (ready.same m begun)
  · have later : w.mutations.length < m := by
      have begun := counted.begun
      rw [more] at begun
      exact Nat.lt_of_lt_of_le begun free
    exact (others (Nat.ne_of_gt later)).trans (ready.accountable accountable m free)

theorem enduring : Enduring AsksNoMore where
  refl w := quiet rfl (Nat.le_refl _)
  trans := trans
  aside beside := quiet beside.calls (by rw [beside.mutations])
  sight key o w := quiet rfl (Nat.le_refl _)
  table key f w _ := quiet rfl (Nat.le_refl _)
  view key f w _ := quiet rfl (Nat.le_refl _)
  paged := paged
  settle m w := quiet rfl (Nat.le_of_eq (List.length_modify ..).symm)
  altered key {e w w'} _ led := by
    rcases led with rfl | ⟨parent, rfl⟩ <;> exact quiet rfl (Nat.le_refl _)
  asked x c {_ _} counted := asked x c counted

theorem step (depth : Nat) (s : Step) : Along AsksNoMore (runTo depth s) :=
  enduring.all (fun _ _ _ => quiet rfl (Nat.le_refl _)) depth s

theorem played (depth : Nat) (steps : List Step) (w : Application) :
    AsksNoMore w (w.played depth steps) := enduring.played depth (fun s _ => step depth s) w

end AsksNoMore

theorem mutationCalls_lasting :
    Lasting fun w w' : Application => w'.mutationCalls = w.mutationCalls where
  refl _ := rfl
  trans one two := two.trans one
  aside beside := by
    unfold mutationCalls
    rw [beside.calls]
  sight _ _ _ := rfl
  table _ _ _ _ := rfl
  view _ _ _ _ := rfl
  paged key token keep call w := (mutationCalls_called _ w).trans (List.append_nil _)
  settle _ _ := rfl
  altered _ _ _ _ _ led := by
    rcases led with rfl | ⟨parent, rfl⟩ <;> rfl

theorem mutationCalls_scripted {run : Run} (observing : Observing run) :
    Scripted (fun w w' : Application => w'.mutationCalls = w.mutationCalls) run := by
  intro s w
  rw [observing s w]
  rfl

theorem Reached.accountable (reached : Reached w) : w.Accountable := by
  induction reached with
  | start workspace modes => exact fun m _ => rfl
  | opened before fresh o ih =>
    rename_i u k
    have same : ((openTable k o).after u).calls = u.calls ∧
        ((openTable k o).after u).mutations = u.mutations := by
      unfold openTable
      rw [Act.after_get_bind, Act.after_result_bind]
      cases startingView u.workspace o with
      | error e => exact ⟨rfl, rfl⟩
      | ok v =>
        dsimp only
        rw [Act.after_change_bind, Act.after_change]
        unfold notices
        rw [recordAll_eq]
        exact ⟨rfl, rfl⟩
    exact (AsksNoMore.quiet same.1 (Nat.le_of_eq (congrArg List.length same.2).symm)).accountable ih
  | stepped before depth s ih => exact (AsksNoMore.step depth s _).accountable ih

end Calls

def nextCall (w : Application) (x : Mutation) (c : ProviderCall) : OpenCall :=
  { key := x.key, purpose := .mutation w.mutations.length, call := c }

-- An operation comes to a mutation: it begins, the provider is asked for it, once and for all, and where
-- listeners only observe it is asked for no other.
structure AsksOnce (run : Run) (a : Act Application Unit) (w : Application) (x : Mutation)
    (c : ProviderCall) : Prop where
  begins : a.outcome w = (mutate run x.key x.kind c x.sequel).outcome w
  starts : Begins run w x c
  lasts : ∀ depth steps, ∃ done,
    ((a.after w).played depth steps).mutation? w.mutations.length = some { x with done }
  once : ∀ depth steps, ((a.after w).played depth steps).callsFor w.mutations.length = [w.nextCall x c]
  only : Observing run → (a.after w).mutationCalls = w.mutationCalls ++ [w.nextCall x c]

section Mutations

variable {run : Run} {w : Application} {x : Mutation} {c : ProviderCall}

theorem begun_fresh (fresh : x.done = false) :
    ({ key := x.key, kind := x.kind, sequel := x.sequel } : Mutation) = x := by
  cases x
  cases fresh
  rfl

theorem mutate_begun (scripts : Scripts run) (fresh : x.done = false)
    (opened : (w.table x.key).closed = false) :
    ∃ done, ((mutate run x.key x.kind c x.sequel).after w).mutation? w.mutations.length =
      some { x with done } := by
  have there : (w.starting x).mutation? w.mutations.length = some x := by
    change (w.mutations ++ [x])[w.mutations.length]? = some x
    rw [List.getElem?_append_right (Nat.le_refl _), Nat.sub_self]
    rfl
  have counted := (updateBusy_shift scripts x.key (w.starting x)).grows
  have handed : Grows (updateBusy run x.key (w.starting x)) (w.mutating run x c) :=
    .same (only_called _ _).beside
  have asked := (mutate_asked scripts x.kind c x.sequel opened).grows
  rw [begun_fresh fresh] at asked
  obtain ⟨done, found, -⟩ := ((counted.trans handed).trans asked).mutations _ x there
  exact ⟨done, found⟩

theorem mutate_begins {run : Run} (fresh : x.done = false) (opened : (w.table x.key).closed = false) :
    Begins run w x c := by
  refine ⟨?_, fun observing => mutating_busy observing x c w⟩
  rw [mutate_open x.kind c x.sequel opened, begun_fresh fresh]

theorem mutate_answers (run : Run) (c : ProviderCall) (fresh : x.done = false)
    (opened : (w.table x.key).closed = false) :
    (mutate run x.key x.kind c x.sequel).after w = (answering run w.mutations.length c).after
      ((updateBusy run x.key (w.starting x)).called (w.nextCall x c)) := by
  rw [Act.after_eq, (mutate_begins fresh opened).asked]
  rfl

theorem mutate_once (depth : Nat) (c : ProviderCall) (fresh : x.done = false)
    (opened : (w.table x.key).closed = false) (accountable : w.Accountable) :
    w.mutations.length < ((mutate (runTo depth) x.key x.kind c x.sequel).after w).mutations.length ∧
      ((mutate (runTo depth) x.key x.kind c x.sequel).after w).callsFor w.mutations.length =
        [w.nextCall x c] := by
  let asking := updateBusy (runTo depth) x.key (w.starting x)
  have scripts := AsksNoMore.enduring.runTo depth
  have counted : AsksNoMore (w.starting x) asking := AsksNoMore.enduring.updateBusy scripts x.key _
  have answered : AsksNoMore (asking.called (w.nextCall x c)) _ :=
    AsksNoMore.enduring.answering scripts w.mutations.length c _
  obtain ⟨more, -⟩ := AsksNoMore.starting x w
  have began : w.mutations.length < (w.starting x).mutations.length := by omega
  have begun : w.mutations.length < (asking.called (w.nextCall x c)).mutations.length :=
    Nat.lt_of_lt_of_le began counted.begun
  have none : asking.callsFor w.mutations.length = [] :=
    (counted.same _ began).trans (accountable _ (Nat.le_refl _))
  rw [mutate_answers (runTo depth) c fresh opened]
  refine ⟨Nat.lt_of_lt_of_le begun answered.begun, (answered.same _ begun).trans ?_⟩
  rw [callsFor_called, none]
  exact if_pos rfl

theorem mutate_only {run : Run} (observing : Observing run) (c : ProviderCall) (fresh : x.done = false)
    (opened : (w.table x.key).closed = false) :
    ((mutate run x.key x.kind c x.sequel).after w).mutationCalls = w.mutationCalls ++ [w.nextCall x c] := by
  have scripts := mutationCalls_scripted observing
  rw [mutate_answers run c fresh opened]
  refine (mutationCalls_lasting.answering scripts _ c _).trans ?_
  rw [mutationCalls_called, mutationCalls_lasting.updateBusy scripts x.key _]
  rfl

theorem mutate_asks_once {depth : Nat} (fresh : x.done = false)
    (opened : (w.table x.key).closed = false) (accountable : w.Accountable) {a : Act Application Unit}
    (begins : a.outcome w = (mutate (runTo depth) x.key x.kind c x.sequel).outcome w) :
    AsksOnce (runTo depth) a w x c := by
  have same : a.after w = (mutate (runTo depth) x.key x.kind c x.sequel).after w :=
    congrArg Prod.snd begins
  refine ⟨begins, mutate_begins fresh opened, fun deep steps => ?_, fun deep steps => ?_,
    fun observing => ?_⟩ <;> rw [same]
  · obtain ⟨_, begun⟩ := mutate_begun (runTo_keeps depth) fresh opened
    obtain ⟨done, lasting, -⟩ := (played_weaves deep steps _).grows.mutations _ _ begun
    exact ⟨done, lasting⟩
  · obtain ⟨begun, once⟩ := mutate_once depth c fresh opened accountable
    exact ((AsksNoMore.played deep steps _).same _ begun).trans once
  · exact mutate_only observing c fresh opened

end Mutations

end Application

end PagedTable
