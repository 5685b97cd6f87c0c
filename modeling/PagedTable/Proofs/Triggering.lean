import PagedTable.Proofs.AssignmentTarget
import PagedTable.Proofs.MutationCalls

namespace PagedTable.Application

variable {run : Run} {key : Nat} {w : Application}

section Describing

def describing (key : Nat) (w : Application) : Application :=
  w.modifyView key fun _ => (w.view key).describe.1

theorem describing_view (key : Nat) (w : Application) :
    (w.describing key).view key = (w.view key).describe.1 := view_modifyView _

theorem modifyView_same (key : Nat) (v : TableView) (w : Application) :
    (w.modifyView key fun _ => v).modifyView key (fun _ => v) = w.modifyView key fun _ => v := by
  let t : Table := { w.table key with view := v }
  have there : (w.modifyView key fun _ => v).table key = t := table_modifyTable _
  have found : Entries.get? key (Entries.put key t w.tables) = some t := Entries.get?_put_same ..
  change { w.modifyView key fun _ => v with
    tables := Entries.put key { (w.modifyView key fun _ => v).table key with view := v }
      (Entries.put key t w.tables) } = _
  rw [there, Entries.put_found found]
  rfl

theorem trigger_outcome {action : String} {row : Value} {a : Action} {r : Except Fault Unit}
    {u : Application} (found : (w.view key).triggered? key action row = some a)
    (performed : (perform run key a ((w.view key).context key row)).outcome (w.describing key) = (r, u)) :
    (trigger run key action row).outcome w = (r.map fun _ => true, u) := by
  obtain ⟨n, d, e, read, known, enabled, same⟩ := TableView.triggered_some found
  unfold describing at performed
  unfold trigger
  rw [Act.outcome_bind, outcome_onView, read]
  dsimp only
  rw [Act.outcome_get_bind, view_modifyView, TableView.describe_context, known]
  dsimp only
  rw [if_neg (by simp [enabled]), same]
  dsimp only
  rw [Act.outcome_bind, performed]
  cases r <;> rfl

theorem triggered_step (depth : Nat) (action : String) (row : Value) (w : Application) :
    (runTo (depth + 1) (.table key (.trigger action row))).after w =
      (trigger (runTo depth) key action row).after w := Act.after_bind_pure _ _ _

theorem Reached.triggered (reached : Reached w) (depth : Nat) (action : String) (row : Value) :
    Reached ((trigger (runTo depth) key action row).after w) := by
  rw [← triggered_step]
  exact reached.stepped (depth + 1) _

theorem Reached.prompt_stays (reached : Reached w) (depth : Nat) {action : String} {row : Value} {place : Place}
    {x : Prompt} (asked : ((trigger (runTo depth) key action row).after w).prompt? place = some x)
    (deep : Nat) (steps : List Step) :
    let u := ((trigger (runTo depth) key action row).after w).played deep steps
    u.prompt? place = some x ∧ u.Accountable :=
  ⟨(played_weaves deep steps _).grows.prompt asked,
    ((reached.triggered depth action row).played deep steps).accountable⟩

end Describing

section Asking

theorem report_failure (f : Failure) (phrase text : Option String) (w : Application) :
    ∃ box, w.workspace.failureBox f phrase text [] = .ok box ∧
      (report (.failure f) phrase text).outcome w = (.ok f, w.notices (w.workspace.announce f ++ box)) := by
  obtain ⟨box, boxed, handled⟩ := w.workspace.handleFailure_plain (.failure f) phrase text
  refine ⟨box, boxed, ?_⟩
  rw [report, Act.outcome_update, handled]
  rfl

theorem requireMediator_there (there : w.workspace.hasDialogs = true) :
    requireMediator.outcome w = (.ok (), w) := by
  unfold requireMediator
  rw [Act.outcome_get_bind, if_neg (by simp [there])]
  rfl

theorem requireMediator_missing (missing : w.workspace.hasDialogs = false) :
    requireMediator.outcome w = (.error .noMediator, w) := by
  unfold requireMediator
  rw [Act.outcome_get_bind, if_pos (by simp [missing])]
  rfl

def questioned (q : OpenQuestion) (title message : String) (w : Application) : Application :=
  let told := w.record (.question q.key title message)
  { told with questions := told.questions ++ [q] }

theorem ask_mediated (key : Nat) (title message : TextPair) (intent : Intent) (ctx : ActionContext)
    (there : w.workspace.hasDialogs = true) :
    ∃ titleText messageText, w.workspace.pairWording title [] = .ok titleText ∧
      w.workspace.pairWording message [] = .ok messageText ∧ (ask key title message intent ctx).outcome w =
        (.ok (), w.questioned { key, context := ctx, intent } titleText messageText) := by
  obtain ⟨titleText, entitled⟩ := w.workspace.pairWording_plain title
  obtain ⟨messageText, worded⟩ := w.workspace.pairWording_plain message
  refine ⟨titleText, messageText, entitled, worded, ?_⟩
  unfold ask
  rw [Act.outcome_bind_ok (requireMediator_there there), Act.outcome_get_bind, entitled, worded]
  rfl

theorem ask_unmediated (title message : TextPair) (intent : Intent) (ctx : ActionContext)
    (missing : w.workspace.hasDialogs = false) :
    (ask key title message intent ctx).outcome w = (.error .noMediator, w) := by
  unfold ask
  rw [Act.outcome_bind, requireMediator_missing missing]

end Asking

section Writing

variable {ids : List Value}

theorem checkIds_some (kind : MutationKind) (some : ids ≠ []) (u : Application) :
    (checkIds kind ids).outcome u = (.ok true, u) := by
  unfold checkIds
  rw [if_neg (by simpa using some)]
  rfl

theorem removeRows_some (sequel : Sequel) (some : ids ≠ []) (u : Application) :
    (removeRows run key ids sequel).outcome u =
      (mutate run key .remove (.remove ids) sequel).outcome u := by
  unfold removeRows
  rw [Act.outcome_bind_ok (checkIds_some .remove some u)]
  rfl

theorem forParent_bound (kind : MutationKind) (call : Value → List Value → ProviderCall)
    (sequel : Sequel) {p : Value} {u : Application} (bound : (u.view key).parentId = .ok p)
    (real : p.isNull = false) (some : ids ≠ []) :
    (forParent run key kind call ids sequel).outcome u =
      (mutate run key kind (call p ids) sequel).outcome u := by
  have checked : (checkParent key kind).outcome u = (.ok p, u) := by
    unfold checkParent
    rw [Act.outcome_get_bind, bound, Act.outcome_bind_ok (Act.outcome_result _ u), if_neg (by simp [real])]
    rfl
  unfold forParent
  rw [Act.outcome_bind_ok checked, if_pos (by simp [real]), Act.outcome_bind_ok (checkIds_some kind some u)]
  rfl

theorem forParent_unbound (run : Run) (kind : MutationKind) (call : Value → List Value → ProviderCall)
    (ids : List Value) (sequel : Sequel) {u : Application}
    (unbound : ¬ ∃ p, (u.view key).parentId = .ok p ∧ p.isNull = false) :
    ∃ r ns, (forParent run key kind call ids sequel).outcome u = (r, u.notices ns) := by
  unfold forParent checkParent
  cases bound : (u.view key).parentId with
  | error e =>
    refine ⟨.error e, [], ?_⟩
    rw [Act.outcome_bind, Act.outcome_get_bind, bound]
    rfl
  | ok p =>
    have null : p.isNull = true := Bool.not_eq_false _ ▸ fun real => unbound ⟨p, bound, real⟩
    obtain ⟨r, ns, reported⟩ := report_outcome (.failure (noParent kind.text)) none none u
    rw [Act.outcome_bind, Act.outcome_get_bind, bound, Act.outcome_bind_ok (Act.outcome_result _ u),
      if_pos null, Act.outcome_bind, reported]
    cases r with
    | error e => exact ⟨.error e, ns, rfl⟩
    | ok f =>
      refine ⟨.ok (), ns, ?_⟩
      change ((if !p.isNull then _ else pure ()) : Act Application Unit).outcome (u.notices ns) = _
      rw [if_neg (by simp [null])]
      rfl

end Writing

end PagedTable.Application
