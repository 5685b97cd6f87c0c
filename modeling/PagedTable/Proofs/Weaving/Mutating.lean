import PagedTable.Proofs.Weaving.Issuing

namespace PagedTable.Application
open Strand

variable {run : Run} {key : Nat}

section Counting

theorem countP_modify {α : Type} (p : α → Bool) (f : α → α) {items : List α} {i : Nat} {x : α}
    (found : items[i]? = some x) :
    (items.modify i f).countP p + (if p x then 1 else 0) =
      items.countP p + (if p (f x) then 1 else 0) := by
  induction items generalizing i with
  | nil => simp at found
  | cons y rest ih =>
    cases i with
    | zero =>
      have same : y = x := by simpa using found
      subst same
      simp only [List.modify_zero_cons, List.countP_cons]
      omega
    | succ i =>
      have later := ih (i := i) (by simpa using found)
      simp only [List.modify_succ_cons, List.countP_cons]
      omega

variable {m : Nat} {x : Mutation} {w : Application}

theorem undone_settle (found : w.mutation? m = some x) (fresh : x.done = false) :
    (w.settleMutation m).undone x.key + 1 = w.undone x.key := by
  have counted := countP_modify (fun y => y.key = x.key && !y.done)
    (fun y : Mutation => { y with done := true }) found
  simpa [undone, settleMutation, fresh] using counted

theorem undone_settle_other {k : Nat} (found : w.mutation? m = some x) (other : k ≠ x.key) :
    (w.settleMutation m).undone k = w.undone k := by
  have counted := countP_modify (fun y => y.key = k && !y.done)
    (fun y : Mutation => { y with done := true }) found
  simpa [undone, settleMutation, Ne.symm other] using counted

end Counting

section Concluding

theorem settle_grows (m : Nat) (w : Application) : Grows w (w.settleMutation m) := by
  refine ⟨List.prefix_rfl, List.prefix_rfl, fun n x found => ?_, [], rfl, (List.append_nil _).symm⟩
  by_cases same : m = n
  · subst same
    have there : w.mutations[m]? = some x := found
    exact ⟨true, by simp [mutation?, settleMutation, there], fun _ => rfl⟩
  · refine ⟨x.done, ?_, id⟩
    simpa [mutation?, settleMutation, List.getElem?_modify, same] using found

-- The state in which a mutation has completed for the first time, and nothing has followed yet.
def settled (m key : Nat) (w : Application) : Application :=
  ((w.sight key (.completed m)).settleMutation m).countDown key

theorem settled_grows (m key : Nat) (w : Application) : Grows w (w.settled m key) := by
  let counted (t : Table) : Table := { t with pending := t.pending - 1 }
  have looked : Only key w (w.sight key (.completed m)) := only_sight _
  have counting : Only key ((w.sight key (.completed m)).settleMutation m) (w.settled m key) :=
    only_modifyTable counted
  exact (Grows.same looked.beside).trans ((settle_grows m _).trans (.same counting.beside))

theorem settled_closed (m key : Nat) (w : Application) :
    ((w.settled m key).table key).closed = (w.table key).closed := by
  unfold settled countDown
  rw [table_modifyTable]
  rfl

theorem begun_grows (x : Mutation) (w : Application) :
    Grows w { w with mutations := w.mutations ++ [x] } := by
  refine ⟨List.prefix_rfl, List.prefix_rfl, fun n y found => ?_, [], rfl, (List.append_nil _).symm⟩
  refine ⟨y.done, ?_, id⟩
  obtain ⟨there, -⟩ := List.getElem?_eq_some_iff.mp found
  exact (List.getElem?_append_left there).trans found

theorem showSuccess_keeps (kind : MutationKind) : Keeps (showSuccess key kind) := by
  refine keeps_bind keeps_get fun w => ?_
  refine keeps_bind (keeps_result _) fun pair => ?_
  refine keeps_bind (keeps_result _) fun text => ?_
  exact keeps_change fun w => (notices_alike _).weaves

theorem reportMutation_keeps (kind : MutationKind) (fault : Fault) :
    Keeps (reportMutation key kind fault) := by
  refine keeps_bind keeps_get fun w => ?_
  refine keeps_bind (keeps_result _) fun pair => ?_
  exact keeps_bind (report_keeps _ _ _) fun _ => keeps_pure _

theorem finish_mutation_shift {m : Nat} {x : Mutation} {u : Application}
    (found : u.mutation? m = some x) (fresh : x.done = false) :
    Shift x.key [] (if (u.table x.key).closed then [] else [.counting]) u
      (u.settled m x.key) := by
  let w := u.sight x.key (.completed m)
  have looked : Only x.key u w := only_sight _
  change w.mutation? m = some x at found
  have fewer := undone_settle found fresh
  have some : 0 < w.undone x.key := by omega
  have less : (w.settleMutation m).undone x.key = w.undone x.key - 1 := by omega
  have settled (tasks : List Task) : (w.settleMutation m).strand tasks x.key =
      (w.strand tasks x.key).withUndone (· - 1) := by
    unfold strand withUndone
    rw [less]
    rfl
  have others (k : Nat) (other : k ≠ x.key) (tasks : List Task) :
      (w.settleMutation m).strand tasks k = w.strand tasks k := by
    unfold strand
    rw [undone_settle_other found other]
    rfl
  have counted : Only x.key (w.settleMutation m) ((w.settleMutation m).countDown x.key) :=
    only_modifyTable _
  refine .stride (fun tasks => ?_) (fun k other tasks => ?_) (settled_grows m x.key u)
  · have move : Move x.key _ _ := .finish (s := u.strand tasks x.key) m some
    have left : (if (u.table x.key).closed then [] else [.counting]) ++ tasks =
        if (u.table x.key).closed then tasks else .counting :: tasks := by
      split <;> rfl
    unfold Application.settled countDown
    rw [strand_modifyTable, settled, strand_sight, left]
    exact move
  · exact (counted.strands k other tasks).trans
      ((others k other tasks).trans (looked.strands k other tasks))

-- The state in which a mutation has begun, and the busy state is to be brought in line.
def starting (x : Mutation) (w : Application) : Application :=
  let seen := w.sight x.key (.began (.mutation w.mutations.length))
  ({ seen with mutations := seen.mutations ++ [x] } : Application).modifyTable x.key fun t =>
    { t with pending := t.pending + 1 }

theorem starting_shift (x : Mutation) (c : ProviderCall) (w : Application) (undone : x.done = false)
    (own : c.operation = .mutation x.kind) (opened : (w.table x.key).closed = false) :
    Shift x.key [] [.counting, .starting w.mutations.length c] w (w.starting x) := by
  let seen := w.sight x.key (.began (.mutation w.mutations.length))
  let begun : Application := { seen with mutations := seen.mutations ++ [x] }
  have more : begun.undone x.key = seen.undone x.key + 1 := by
    simp [begun, Application.undone, List.countP_append, undone]
  have begins (tasks : List Task) : begun.strand tasks x.key =
      (seen.strand tasks x.key).withUndone (· + 1) := by
    unfold strand withUndone
    rw [more]
    rfl
  have others (k : Nat) (other : k ≠ x.key) (tasks : List Task) :
      begun.strand tasks k = seen.strand tasks k := by
    have same : begun.undone k = seen.undone k := by
      simp [begun, Application.undone, List.countP_append, Ne.symm other]
    unfold strand
    rw [same]
    rfl
  have looked : Only x.key w seen := only_sight _
  have counted : Only x.key begun (w.starting x) :=
    only_modifyTable (w := begun) fun t => { t with pending := t.pending + 1 }
  refine .stride (fun tasks => ?_) (fun k other tasks => ?_)
    ((Grows.same looked.beside).trans ((begun_grows x seen).trans (.same counted.beside)))
  · unfold starting
    have move : Move x.key _ _ := .start (s := w.strand tasks x.key) opened w.mutations.length c own
    rw [strand_modifyTable, begins, strand_sight]
    exact move
  · rw [counted.strands k other, others k other, looked.strands k other]

theorem mutate_closed (kind : MutationKind) (c : ProviderCall) (sequel : Sequel) {w : Application}
    (closed : (w.table key).closed = true) : (mutate run key kind c sequel).after w = w := by
  unfold mutate
  rw [Act.after_get_bind, if_pos closed, Act.after_pure]

variable (scripts : Scripts run)

include scripts

theorem runSequel_keeps (s : Sequel) (r : MutationResult) : Keeps (runSequel run key s r) := by
  cases s with
  | nothing => exact keeps_pure ()
  | clearQuietly => exact keeps_change (clearSelection_keeps scripts)
  | script clears steps fails =>
    refine keeps_bind (keeps_change fun w => quiet_weaves rfl rfl trivial) fun _ => ?_
    refine keeps_bind (keeps_change fun w => ?_) fun _ => ?_
    · split
      · exact clearSelection_keeps scripts w
      · exact .refl w
    refine keeps_bind (keeps_change (follow_weaves scripts steps)) fun _ => ?_
    split
    · exact keeps_throw _
    · exact keeps_pure ()

theorem concludeMutation_keeps (x : Mutation) (o : Outcome) : Keeps (concludeMutation run x o) := by
  unfold concludeMutation
  split
  · exact reportMutation_keeps _ _
  · refine keeps_bind (showSuccess_keeps _) fun _ => ?_
    exact keeps_bind (runSequel_keeps scripts _ _) fun _ => refresh_keeps scripts

theorem mutationDone_keeps (m : Nat) (o : Outcome) : Keeps (mutationDone run m o) := by
  refine keeps_get_bind fun w => ?_
  split
  · exact .refl w
  · rename_i x found
    split
    · exact .refl w
    · rename_i fresh
      have finished := finish_mutation_shift found (Bool.eq_false_iff.mpr fresh)
      rw [Act.after_change_bind, Act.after_change_bind, Act.after_change_bind, Act.after_get_bind]
      change Weaves w ((if ((w.settled m x.key).table x.key).closed then _ else _ :
        Act Application Unit).after (w.settled m x.key))
      rw [settled_closed]
      apply Shift.weaves x.key
      split <;> rename_i stopped
      · rw [if_pos stopped] at finished
        exact finished
      · rw [if_neg stopped] at finished
        rw [Act.after_change_bind]
        refine (finished.trans (updateBusy_shift scripts x.key _)).then ?_
        exact concludeMutation_keeps scripts x o _

-- The state in which a mutation has begun, with the busy state in line, and the provider is asked.
def mutating (run : Run) (x : Mutation) (c : ProviderCall) (w : Application) : Application :=
  (updateBusy run x.key (w.starting x)).called
    { key := x.key, purpose := .mutation w.mutations.length, call := c }

theorem mutating_weaves (x : Mutation) (c : ProviderCall) (w : Application) (undone : x.done = false)
    (own : c.operation = .mutation x.kind) (opened : (w.table x.key).closed = false) :
    Weaves w (w.mutating run x c) := by
  let m := w.mutations.length
  let call : OpenCall := { key := x.key, purpose := .mutation m, call := c }
  have asking (y : Application) : Shift x.key [.starting m c] [] y (y.called call) := by
    refine .move (fun tasks => ?_) (only_called call y)
    rw [strand_called call]
    exact .request rfl
  have counted := (updateBusy_shift scripts x.key (w.starting x)).above [.starting m c]
  apply Shift.weaves x.key
  exact ((starting_shift x c w undone own opened).trans counted).trans (asking _)

theorem mutate_asked (kind : MutationKind) (c : ProviderCall) (sequel : Sequel) {w : Application}
    (opened : (w.table key).closed = false) :
    Weaves (w.mutating run { key, kind, sequel } c) ((mutate run key kind c sequel).after w) := by
  let m := w.mutations.length
  have answered (x : Application) := callProvider_weaves (P := fun _ => True) (w := x)
    (fun _ _ => trivial) (fun o y _ => mutationDone_keeps scripts m o y)
    { key, purpose := .mutation m, call := c } trivial
  unfold mutate
  rw [Act.after_get_bind, if_neg (by simp [opened]), Act.after_get_bind]
  simp only [Act.after_change_bind, Act.after_attempt_bind]
  refine (answered _).trans ?_
  generalize ((callProvider _ _ _ _).outcome _).1 = outcome
  cases outcome with
  | ok => exact .refl _
  | error e => exact mutationDone_keeps scripts m { error := some e } _

theorem mutate_keeps (kind : MutationKind) (c : ProviderCall) (sequel : Sequel)
    (own : c.operation = .mutation kind) : Keeps (mutate run key kind c sequel) := by
  intro w
  cases closed : (w.table key).closed with
  | true =>
    rw [mutate_closed kind c sequel closed]
    exact .refl w
  | false =>
    have asking := mutating_weaves scripts { key, kind, sequel } c w rfl own closed
    exact asking.trans (mutate_asked scripts kind c sequel closed)

end Concluding

def forParent (run : Run) (key : Nat) (kind : MutationKind)
    (call : Value → List Value → ProviderCall) (ids : List Value) (sequel : Sequel) :
    Act Application Unit := do
  let parent ← checkParent key kind
  if !parent.isNull then
    if ← checkIds kind ids then mutate run key kind (call parent ids) sequel

section Asking

variable (scripts : Scripts run)

theorem checkIds_keeps (kind : MutationKind) (ids : List Value) : Keeps (checkIds kind ids) := by
  unfold checkIds
  split
  · exact keeps_bind (report_keeps _ _ _) fun _ => keeps_pure false
  · exact keeps_pure true

theorem checkParent_keeps (kind : MutationKind) : Keeps (checkParent key kind) := by
  refine keeps_bind keeps_get fun w => ?_
  refine keeps_bind (keeps_result _) fun parent => ?_
  dsimp only
  split
  · exact keeps_bind (report_keeps _ _ _) fun _ => keeps_pure parent
  · exact keeps_pure parent

include scripts

theorem removeRows_keeps (ids : List Value) (sequel : Sequel) :
    Keeps (removeRows run key ids sequel) := by
  refine keeps_bind (checkIds_keeps .remove ids) fun some => ?_
  split
  · exact mutate_keeps scripts .remove (.remove ids) sequel rfl
  · exact keeps_pure ()

theorem forParent_keeps (kind : MutationKind) (call : Value → List Value → ProviderCall)
    (own : ∀ parent ids, (call parent ids).operation = .mutation kind) (ids : List Value)
    (sequel : Sequel) : Keeps (forParent run key kind call ids sequel) := by
  refine keeps_bind (checkParent_keeps kind) fun parent => ?_
  split
  · refine keeps_bind (checkIds_keeps kind ids) fun some => ?_
    split
    · exact mutate_keeps scripts kind (call parent ids) sequel (own parent ids)
    · exact keeps_pure ()
  · exact keeps_pure ()

theorem assignRows_keeps (ids : List Value) (sequel : Sequel) :
    Keeps (assignRows run key ids sequel) :=
  forParent_keeps scripts .assign .assign (fun _ _ => rfl) ids sequel

theorem unassignRows_keeps (ids : List Value) (sequel : Sequel) :
    Keeps (unassignRows run key ids sequel) :=
  forParent_keeps scripts .unassign .unassign (fun _ _ => rfl) ids sequel

end Asking

end PagedTable.Application
