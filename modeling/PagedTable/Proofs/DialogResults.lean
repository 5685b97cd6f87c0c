import PagedTable.Proofs.PageOrder
import PagedTable.Proofs.Triggering

namespace PagedTable

namespace Value

-- The user backed out of a dialog, or accepted it without a result.
inductive BacksOut : Value → Prop where
  | nothing : BacksOut .null
  | truth (b : Bool) : BacksOut (.bool b)
  | cancel : BacksOut (.text Button.cancel.text)

def isTruth : Value → Bool
  | .bool _ => true
  | _ => false

-- The identity that a chosen item stands for: text, integers and tuples are identities themselves, other
-- items are rows.
def Stands (idField : String) (item id : Value) : Prop :=
  match item with
  | .text _ | .number (.int _) | .tuple _ => id = item
  | _ => item.identity idField = .ok id

-- The identities of what was chosen, in the order of the result, which may be a single item. Truth values
-- are no items.
def Chooses (result : Value) (idField : String) (ids : List Value) : Prop :=
  List.Forall₂ (Stands idField) ((result.items?.getD [result]).filter fun item => !item.isTruth) ids

theorem chosenId_iff {idField : String} {item : Value} {ids : List Value} (whole : item.isTruth = false) :
    item.chosenId idField = .ok ids ↔ ∃ id, item.Stands idField id ∧ ids = [id] := by
  have itself : (.ok [item] : Except Fault (List Value)) = .ok ids ↔ ∃ id, id = item ∧ ids = [id] := by
    simp [eq_comm]
  have row : ((item.identity idField).map fun id => [id]) = .ok ids ↔
      ∃ id, item.identity idField = .ok id ∧ ids = [id] := by
    cases item.identity idField <;> simp [Except.map, eq_comm]
  cases item with
  | text s | tuple items => exact itself
  | number n =>
    cases n with
    | truth b => cases whole
    | int n => exact itself
    | _ => exact row
  | _ => exact row

theorem chosenIdsOf_iff {idField : String} {items ids : List Value} :
    chosenIdsOf idField items = .ok ids ↔
      List.Forall₂ (Stands idField) (items.filter fun item => !item.isTruth) ids := by
  induction items generalizing ids with
  | nil => simp [chosenIdsOf, eq_comm]
  | cons item rest ih =>
    have together : chosenIdsOf idField (item :: rest) = .ok ids ↔ ∃ own more,
        item.chosenId idField = .ok own ∧ chosenIdsOf idField rest = .ok more ∧ ids = own ++ more := by
      rw [chosenIdsOf]
      cases item.chosenId idField with
      | error e => simp [bind, Except.bind]
      | ok own => cases chosenIdsOf idField rest <;> simp [bind, Except.bind, pure, Except.pure, eq_comm]
    rw [together]
    cases whole : item.isTruth with
    | true =>
      have none : item.chosenId idField = .ok [] := by
        unfold isTruth at whole
        split at whole
        · rfl
        · cases whole
      rw [List.filter_cons_of_neg (by simp [whole])]
      simp [none, ih]
    | false =>
      rw [List.filter_cons_of_pos (by simp [whole]), List.forall₂_cons_left_iff]
      simp only [chosenId_iff whole, ih]
      constructor
      · rintro ⟨own, more, ⟨id, stands, rfl⟩, others, rfl⟩
        exact ⟨id, more, stands, others, rfl⟩
      · rintro ⟨id, more, stands, others, rfl⟩
        exact ⟨[id], more, ⟨id, stands, rfl⟩, others, rfl⟩

theorem chosenIds_iff {idField : String} {result : Value} {ids : List Value} :
    result.chosenIds idField = .ok ids ↔ result.Chooses idField ids := chosenIdsOf_iff

theorem cancelled_iff {result : Value} :
    result.BacksOut ↔ result.isCancelled = true ∨ ∃ b, result = .bool b := by
  constructor
  · rintro (_ | b | _)
    · exact .inl rfl
    · exact .inr ⟨b, rfl⟩
    · exact .inl (decide_eq_true (Eq.refl Button.cancel.text))
  · rintro (cancelled | ⟨b, rfl⟩)
    · unfold isCancelled at cancelled
      split at cancelled
      · exact .nothing
      · exact .truth _
      · rename_i s
        rw [of_decide_eq_true cancelled]
        exact .cancel
      · cases cancelled
    · exact .truth b

end Value

namespace TableView

-- The row that an edit works on: the one it was triggered on, else the first that has the only selected
-- identity.
inductive Targets (v : TableView) (ctx : ActionContext) : Value → Prop where
  | given (real : ctx.row.isNull = false) : Targets v ctx ctx.row
  | selected {id row : Value} (none : ctx.row = .null) (only : ctx.selection = [id])
      (first : v.rows.find? (fun row => (v.idOf row).same id) = some row) (real : row.isNull = false) :
      Targets v ctx row

variable {v : TableView} {known : Nat × TableDescriptor}

theorem rowById_known (cached : v.describe = (v, .ok known)) (id : Value) :
    v.rowById id = (v, .ok ((v.rows.find? fun row => (v.idOf row).same id).getD .null)) := by
  have read : (v.identified v.rows).2 = .ok (v.rows.map fun row => (v.idOf row, row)) :=
    identified_iff.mpr ⟨fun row _ => identityOf_known (by rw [cached]) row, rfl⟩
  refine Prod.ext (described_again cached (v.rowById_described id)) ?_
  unfold rowById
  rcases both : v.identified v.rows with ⟨u, outcome⟩
  rw [both] at read
  cases read
  simp [List.find?_map, Function.comp_def]

theorem targets_described (v : TableView) {ctx : ActionContext} {row : Value} :
    v.describe.1.Targets ctx row ↔ v.Targets ctx row := by
  have same (id : Value) : v.describe.1.rows.find? (fun row => (v.describe.1.idOf row).same id) =
      v.rows.find? fun row => (v.idOf row).same id := by
    rw [v.describe_kept.rows.1]
    simp only [idOf_described]
  constructor <;> intro targets
  all_goals
    cases targets with
    | given real => exact .given real
    | selected none only first real => exact .selected none only (by simpa only [same] using first) real

end TableView

theorem DialogPlan.params_made (plan : DialogPlan) (mode : DialogMode) (data : Value) (ctx : ActionContext) :
    (∃ e, plan.params mode data ctx = .error e) ∨
      ∃ restrictions, plan.params mode data ctx = .ok { data, mode, restrictions } := by
  unfold params
  cases plan.filter.fields ctx with
  | error e => exact .inl ⟨e, rfl⟩
  | ok restrictions => exact .inr ⟨restrictions, rfl⟩

theorem ActionForm.chooser_of_kind {form : ActionForm} (kind : form.kind = .assign) :
    ∃ idField plan, form = .dialog (.assign idField) plan := by
  cases form with
  | dialog purpose plan =>
    cases purpose with
    | assign idField => exact ⟨idField, plan, rfl⟩
    | _ => cases kind
  | _ => cases kind

namespace Application

variable {run : Run} {key : Nat} {w : Application}

def prompted (d : OpenDialog) (component : Value) (size : DialogSize) (w : Application) : Application :=
  let told := w.record (.dialog d.key component d.params size)
  { told with dialogs := told.dialogs ++ [d] }

-- Nothing is left to wait for: nobody was asked for anything, and tables differ in their descriptions.
structure LeavesNothing (w w' : Application) : Prop where
  calls : w'.calls = w.calls
  mutations : w'.mutations = w.mutations
  indicator : w'.indicator = w.indicator
  tables : ∀ k, ∃ v, TableView.Described (w.view k) v ∧ w'.table k = { w.table k with view := v }

-- What a dialog is opened with. An edit works on its row, and may change it where the flag of the row says
-- so then.
structure OpensWith (v : TableView) (k : Nat) (row : Value) (p : Purpose) (d : OpenDialog) : Prop where
  key : d.key = k
  context : d.context = v.context k row
  purpose : d.purpose = p
  target : p = .edit → v.Targets d.context d.params.data ∧
    (d.params.mode = .view ↔ d.params.data.flag updateFlag = false)

-- What is written for a result in a state: what a create dialog gives is created, what an edit gives is
-- updated where the row allows it, and what was chosen is assigned to the parent that is bound, if
-- something was chosen, all of it has an identity, and so has the parent.
inductive Writes (d : OpenDialog) (result : Value) (u : Application) :
    MutationKind → Sequel → ProviderCall → Prop where
  | created (creates : d.purpose = .create) : Writes d result u .create .nothing (.create result)
  | updated (edits : d.purpose = .edit) (allowed : d.params.data.flag updateFlag = true) :
      Writes d result u .update .nothing (.update result)
  | assigned {idField : String} {ids : List Value} {p : Value} (assigns : d.purpose = .assign idField)
      (chosen : result.Chooses idField ids) (some : ids ≠ []) (bound : (u.view d.key).parentId = .ok p)
      (real : p.isNull = false) : Writes d result u .assign .clearQuietly (.assign p ids)

inductive Closes (depth : Nat) (d : OpenDialog) (result : Value) (u : Application) : Prop where
  | backedOut (out : result.BacksOut)
      (nothing : (dialogClosed (runTo depth) d result).outcome u = (.ok (), u))
  | written (wants : ¬ result.BacksOut) (kind : MutationKind) (sequel : Sequel) (c : ProviderCall)
      (writes : Writes d result u kind sequel c)
      (asked : AsksOnce (runTo depth) (dialogClosed (runTo depth) d result) u { key := d.key, kind, sequel } c)
  | refused (wants : ¬ result.BacksOut) (none : ∀ kind sequel c, ¬ Writes d result u kind sequel c)
      (r : Except Fault Unit) (ns : List Notice)
      (told : (dialogClosed (runTo depth) d result).outcome u = (r, u.notices ns))

section Opening

theorem notices_leave (ns : List Notice) (w : Application) : LeavesNothing w (w.notices ns) := by
  unfold notices
  rw [recordAll_eq]
  exact ⟨rfl, rfl, rfl, fun k => ⟨_, .inl rfl, rfl⟩⟩

theorem LeavesNothing.trans {u v w : Application} (one : LeavesNothing u v) (two : LeavesNothing v w) :
    LeavesNothing u w := by
  refine ⟨two.calls.trans one.calls, two.mutations.trans one.mutations, two.indicator.trans one.indicator,
    fun k => ?_⟩
  obtain ⟨first, described, same⟩ := one.tables k
  obtain ⟨second, again, still⟩ := two.tables k
  have seen : v.view k = first := congrArg Table.view same
  rw [seen] at again
  rw [same] at still
  exact ⟨second, described.trans again, still⟩

theorem describing_leaves (key : Nat) (w : Application) : LeavesNothing w (w.describing key) := by
  refine ⟨rfl, rfl, rfl, fun k => ?_⟩
  by_cases own : k = key
  · subst own
    exact ⟨_, .inr rfl, table_modifyTable _⟩
  · exact ⟨_, .inl rfl, table_modifyTable_other own _⟩

theorem prompted_leaves (d : OpenDialog) (component : Value) (size : DialogSize) (w : Application) :
    LeavesNothing w (w.prompted d component size) := ⟨rfl, rfl, rfl, fun _ => ⟨_, .inl rfl, rfl⟩⟩

theorem targetRow_outcome (key : Nat) (w : Application) {v : TableView} {known : Nat × TableDescriptor}
    (cached : v.describe = (v, .ok known)) (ctx : ActionContext) :
    ∃ row, (targetRow key ctx).outcome (w.modifyView key fun _ => v) =
        (.ok row, w.modifyView key fun _ => v) ∧ (row.isNull = false → v.Targets ctx row) ∧
      (row.isNull = true → ∀ other, ¬ v.Targets ctx other) := by
  have shown : (w.modifyView key fun _ => v).view key = v := view_modifyView _
  unfold targetRow
  split
  · rename_i id none only
    refine ⟨(v.rows.find? fun row => (v.idOf row).same id).getD .null, ?_, fun real => ?_, fun null other => ?_⟩
    · rw [outcome_onView, shown, TableView.rowById_known cached]
      exact Prod.ext rfl (modifyView_same key v w)
    · cases first : v.rows.find? fun row => (v.idOf row).same id with
      | none => simp [first, Value.isNull] at real
      | some row => exact .selected none only first (by simpa [first] using real)
    · rintro (real | ⟨-, only', first, real⟩)
      · simp [none, Value.isNull] at real
      · obtain rfl := List.singleton_inj.mp (only.symm.trans only')
        simp [first, real] at null
  · rename_i other
    refine ⟨ctx.row, rfl, .given, fun null row => ?_⟩
    rintro (real | ⟨none, only, -, -⟩)
    · simp [null] at real
    · exact other _ none only

-- What a dialog is to be opened with is made without a trace, but for what the user is told; only for an
-- edit without a row it is not made, unless something raises.
theorem dialogParams_outcome (key : Nat) (w : Application) {v : TableView} {known : Nat × TableDescriptor}
    (cached : v.describe = (v, .ok known)) (purpose : Purpose) (plan : DialogPlan) (ctx : ActionContext) :
    let z := w.modifyView key fun _ => v
    (∃ params, (dialogParams key purpose plan ctx).outcome z = (.ok (some params), z) ∧
      (purpose = .edit → v.Targets ctx params.data ∧
        (params.mode = .view ↔ params.data.flag updateFlag = false))) ∨
    (∃ ns, (dialogParams key purpose plan ctx).outcome z = (.ok none, z.notices ns) ∧
      purpose = .edit ∧ ∀ row, ¬ v.Targets ctx row) ∨
    ∃ e, (dialogParams key purpose plan ctx).outcome z = (.error e, z) := by
  intro z
  unfold dialogParams
  split
  · obtain ⟨row, looked, targets, missing⟩ := targetRow_outcome key w cached ctx
    rw [Act.outcome_bind_ok looked]
    cases null : row.isNull with
    | true =>
      obtain ⟨box, -, told⟩ := report_failure selectExactlyOne none none z
      refine .inr (.inl ⟨box, ?_, rfl, missing null⟩)
      rw [if_pos rfl, Act.outcome_bind_ok told]
      rfl
    | false =>
      rw [if_neg Bool.false_ne_true]
      dsimp only
      rcases plan.params_made (if row.flag updateFlag then .edit else .view) row ctx with
        ⟨e, raises⟩ | ⟨restrictions, made⟩
      · rw [raises]
        exact .inr (.inr ⟨e, rfl⟩)
      · rw [made]
        refine .inl ⟨_, rfl, fun _ => ⟨targets null, ?_⟩⟩
        cases row.flag updateFlag <;> simp
  · rename_i other
    rcases plan.params_made (ActionForm.dialogMode purpose) .null ctx with ⟨e, raises⟩ | ⟨restrictions, made⟩
    · rw [raises]
      exact .inr (.inr ⟨e, rfl⟩)
    · rw [made]
      exact .inl ⟨_, rfl, fun edits => absurd edits other⟩

theorem openDialog_outcome (key : Nat) (w : Application) {v : TableView} {known : Nat × TableDescriptor}
    (cached : v.describe = (v, .ok known)) (a : Action) (purpose : Purpose) (plan : DialogPlan) (ctx : ActionContext) :
    let z := w.modifyView key fun _ => v
    (∃ params component, (openDialog key a purpose plan ctx).outcome z =
        (.ok (), z.prompted { key, context := ctx, purpose, params } component plan.size) ∧
      (purpose = .edit → v.Targets ctx params.data ∧
        (params.mode = .view ↔ params.data.flag updateFlag = false))) ∨
    (∃ ns, (openDialog key a purpose plan ctx).outcome z = (.ok (), z.notices ns) ∧
      purpose = .edit ∧ ∀ row, ¬ v.Targets ctx row) ∨
    ∃ e, (openDialog key a purpose plan ctx).outcome z = (.error e, z) := by
  intro z
  unfold openDialog
  rcases dialogParams_outcome key w cached purpose plan ctx with
    ⟨params, made, target⟩ | ⟨ns, told, missing⟩ | ⟨e, raised⟩
  · rw [Act.outcome_bind_ok made]
    dsimp only
    rw [Act.outcome_get_bind]
    cases there : z.workspace.hasDialogs with
    | true =>
      rw [Act.outcome_bind_ok (requireMediator_there there)]
      exact .inl ⟨params, z.componentOf key a plan, rfl, target⟩
    | false =>
      rw [Act.outcome_bind, requireMediator_missing there]
      exact .inr (.inr ⟨.noMediator, rfl⟩)
  · rw [Act.outcome_bind_ok told]
    exact .inr (.inl ⟨ns, rfl, missing⟩)
  · rw [Act.outcome_bind, raised]
    exact .inr (.inr ⟨e, rfl⟩)

end Opening

section Closing

variable {depth : Nat} {d : OpenDialog} {result : Value} {u : Application}

theorem Writes.closes (wants : ¬ result.BacksOut) (accountable : u.Accountable)
    (opened : (u.table d.key).closed = false) {kind : MutationKind} {sequel : Sequel} {c : ProviderCall}
    (writes : Writes d result u kind sequel c)
    (begins : (dialogClosed (runTo depth) d result).outcome u =
      (mutate (runTo depth) d.key kind c sequel).outcome u) : Closes depth d result u :=
  .written wants kind sequel c writes (mutate_asks_once rfl opened accountable begins)

theorem closed_applies (wants : ¬ result.BacksOut) : dialogClosed run d result = applyResult run d result := by
  have kept : result.isCancelled ≠ true := fun cancelled => wants (Value.cancelled_iff.mpr (.inl cancelled))
  unfold dialogClosed
  rw [if_neg kept]
  split
  · exact absurd (.truth _) wants
  · rfl

theorem closes_of_wanted
    (wanted : ¬ result.BacksOut → dialogClosed (runTo depth) d result = applyResult (runTo depth) d result →
      Closes depth d result u) : Closes depth d result u := by
  by_cases out : result.BacksOut
  · refine .backedOut out ?_
    rcases Value.cancelled_iff.mp out with cancelled | ⟨b, rfl⟩
    · unfold dialogClosed
      rw [if_pos cancelled]
      rfl
    · cases b <;> rfl
  · exact wanted out (closed_applies out)

theorem create_closes (creates : d.purpose = .create) (accountable : u.Accountable)
    (opened : (u.table d.key).closed = false) : Closes depth d result u := by
  refine closes_of_wanted fun wants applies => ?_
  unfold applyResult at applies
  rw [creates] at applies
  exact (Writes.created creates).closes wants accountable opened (by rw [applies]; rfl)

theorem edit_closes (edits : d.purpose = .edit)
    (target : d.params.mode = .view ↔ d.params.data.flag updateFlag = false) (accountable : u.Accountable)
    (opened : (u.table d.key).closed = false) : Closes depth d result u := by
  refine closes_of_wanted fun wants applies => ?_
  unfold applyResult at applies
  rw [edits] at applies
  cases mode : d.params.mode with
  | view =>
    refine .refused wants (fun kind sequel c writes => ?_) (.ok ()) [] (by rw [applies, mode]; rfl)
    cases writes with
    | updated _ allowed => simp [target.mp mode] at allowed
    | created creates => simp [edits] at creates
    | assigned assigns => simp [edits] at assigns
  | edit | create =>
    have allowed : d.params.data.flag updateFlag = true :=
      Bool.not_eq_false _ ▸ fun barred => by simp [target.mpr barred] at mode
    exact (Writes.updated edits allowed).closes wants accountable opened (by rw [applies, mode]; rfl)

theorem chooser_writes {idField : String} (assigns : d.purpose = .assign idField)
    (unfit : ∀ ids p, result.Chooses idField ids → ids ≠ [] → (u.view d.key).parentId = .ok p →
      p.isNull = true) (kind : MutationKind) (sequel : Sequel) (c : ProviderCall) :
    ¬ Writes d result u kind sequel c := by
  intro writes
  cases writes with
  | created creates => simp [assigns] at creates
  | updated edits => simp [assigns] at edits
  | assigned own chosen some bound real =>
    obtain rfl : _ = idField := Purpose.assign.inj (own.symm.trans assigns)
    simp [unfit _ _ chosen some bound] at real

theorem chooser_closes {idField : String} (assigns : d.purpose = .assign idField)
    (accountable : u.Accountable) (opened : (u.table d.key).closed = false) : Closes depth d result u := by
  refine closes_of_wanted fun wants applies => ?_
  unfold applyResult at applies
  rw [assigns] at applies
  dsimp only at applies
  cases chosen : result.chosenIds idField with
  | error e =>
    refine .refused wants (chooser_writes assigns fun ids p chooses => ?_) (.error e) [] ?_
    · rw [Value.chosenIds_iff.mpr chooses] at chosen
      cases chosen
    · rw [applies, chosen]
      rfl
  | ok ids =>
    have chooses := Value.chosenIds_iff.mp chosen
    have only (more : List Value) (again : result.Chooses idField more) : more = ids :=
      Except.ok.inj ((Value.chosenIds_iff.mpr again).symm.trans chosen)
    rw [chosen] at applies
    by_cases some : ids = []
    · refine .refused wants (chooser_writes assigns fun more p again nonempty => ?_) (.ok ()) [] ?_
      · exact absurd ((only more again).trans some) nonempty
      · rw [applies, some]
        rfl
    · have assigning : (dialogClosed (runTo depth) d result).outcome u =
          (forParent (runTo depth) d.key .assign .assign ids .clearQuietly).outcome u := by
        rw [applies, Act.outcome_bind_ok (Act.outcome_result _ u), if_neg (mt List.isEmpty_iff.mp some)]
        rfl
      by_cases bound : ∃ p, (u.view d.key).parentId = .ok p ∧ p.isNull = false
      · obtain ⟨p, bound, real⟩ := bound
        refine (Writes.assigned assigns chooses some bound real).closes wants accountable opened ?_
        exact assigning.trans (forParent_bound .assign .assign .clearQuietly bound real some)
      · obtain ⟨r, ns, told⟩ :=
          forParent_unbound (runTo depth) .assign .assign ids .clearQuietly bound
        refine .refused wants (chooser_writes assigns fun more p _ _ there => ?_) r ns (assigning.trans told)
        exact Bool.not_eq_false _ ▸ fun real => bound ⟨p, there, real⟩

theorem opened_closes {v : TableView} {row : Value} {purpose : Purpose} (opens : OpensWith v key row purpose d)
    (real : purpose ≠ .bare) (accountable : u.Accountable) (opened : (u.table key).closed = false) :
    Closes depth d result u := by
  rw [← opens.key] at opened
  cases purpose with
  | bare => exact absurd rfl real
  | create => exact create_closes opens.purpose accountable opened
  | edit => exact edit_closes opens.purpose (opens.target rfl).2 accountable opened
  | assign idField => exact chooser_closes opens.purpose accountable opened

end Closing

-- An action that opens a dialog, when it is triggered in a state that can come about. It opens one dialog,
-- unless it is an edit that finds no row or something raises, and leaves nothing to wait for either way. The
-- dialog stays as it was opened whatever follows, and each result with which it is closed while the table
-- is open is gated.
theorem dialog_results_gated (reached : Reached w) {action : String} {row : Value} {a : Action}
    (found : (w.view key).triggered? key action row = some a) {purpose : Purpose} {plan : DialogPlan}
    (form : a.form = .dialog purpose plan) (real : purpose ≠ .bare) (depth : Nat) :
    let ran := (trigger (runTo depth) key action row).outcome w
    LeavesNothing w ran.2 ∧
    ((∃ d component, OpensWith (w.view key) key row purpose d ∧
        ran = (.ok true, (w.describing key).prompted d component plan.size) ∧
        (∀ deep steps, let u := ran.2.played deep steps
          u.prompt? (.dialog w.dialogs.length) = some (.dialog d) ∧ u.Accountable) ∧
        ∀ deep result u, u.Accountable → (u.table key).closed = false → Closes deep d result u) ∨
      (∃ ns, ran = (.ok true, (w.describing key).notices ns) ∧ purpose = .edit ∧
        ∀ target, ¬ (w.view key).Targets ((w.view key).context key row) target) ∨
      ∃ e, ran = (.error e, w.describing key)) := by
  intro ran
  obtain ⟨n, known, e, read, -⟩ := TableView.triggered_some found
  have cached := TableView.describe_cached (TableView.describe_caches read)
  have performs (ctx : ActionContext) : perform (runTo depth) key a ctx = openDialog key a purpose plan ctx := by
    unfold perform
    rw [form]
  have triggers {r : Except Fault Unit} {u : Application}
      (opens : (openDialog key a purpose plan ((w.view key).context key row)).outcome (w.describing key) = (r, u)) :
      ran = (r.map fun _ => true, u) :=
    trigger_outcome found ((congrArg (Act.outcome · _) (performs _)).trans opens)
  have described := describing_leaves key w
  -- opened, without a row to edit, or stopped: looking for the row has left no more than a description
  rcases openDialog_outcome key w cached a purpose plan ((w.view key).context key row) with
    ⟨params, component, opens, target⟩ | ⟨ns, told, edits, missing⟩ | ⟨e, raised⟩
  · let d : OpenDialog := { key, context := (w.view key).context key row, purpose, params }
    have triggered : ran = (.ok true, (w.describing key).prompted d component plan.size) := triggers opens
    have opening : OpensWith (w.view key) key row purpose d :=
      ⟨rfl, rfl, rfl, fun edits => (target edits).imp_left (w.view key).targets_described.mp⟩
    refine ⟨triggered ▸ described.trans (prompted_leaves d component plan.size _), .inl ⟨d, component, opening,
      triggered, fun deep steps => ?_, fun deep result u => opened_closes opening real⟩⟩
    refine reached.prompt_stays depth ?_ deep steps
    rw [Act.after_eq, show (trigger (runTo depth) key action row).outcome w = _ from triggered]
    exact congrArg (Option.map Prompt.dialog) List.getElem?_concat_length
  · have triggered : ran = (.ok true, (w.describing key).notices ns) := triggers told
    refine ⟨triggered ▸ described.trans (notices_leave ns _), .inr (.inl ⟨ns, triggered, edits, ?_⟩)⟩
    exact fun target there => missing target ((w.view key).targets_described.mpr there)
  · have triggered : ran = (.error e, w.describing key) := triggers raised
    exact ⟨triggered ▸ described, .inr (.inr ⟨e, triggered⟩)⟩

theorem assignable_gated :
    let asked := (trigger (runTo 0) 0 "add" .null).after assignable
    let later := asked.played 1 [.table 0 .refresh, .complete 0 (.page [] none)]
    (∃ d, OpensWith (assignable.view 0) 0 .null d.purpose d ∧ later.prompt? (.dialog 0) = some (.dialog d) ∧
      ∀ result, Closes 1 d result later) ∧
    ((later.played 1 [.closeDialog 0 (.list [.text "u1", .bool true, site "u2" false])]).mutationCalls.map
      fun c => match c.call with
        | .assign p ids => p.same (.text "g1") && Value.sameItems ids [.text "u1", .text "u2"]
        | _ => false) = [true] := by
  intro asked later
  refine ⟨?_, by decide +kernel⟩
  have reached : Reached assignable := opened_reached _
  have catalogue : ((assignable.view 0).triggered? 0 "add" .null).map (fun a => a.form.kind) =
      some .assign := by decide +kernel
  obtain ⟨a, found, kind⟩ := Option.map_eq_some_iff.mp catalogue
  obtain ⟨idField, plan, form⟩ := ActionForm.chooser_of_kind kind
  obtain ⟨-, ⟨d, component, opens, -, stays, closes⟩ | ⟨ns, -, edits, -⟩ | ⟨e, raised⟩⟩ :=
    dialog_results_gated reached found form nofun 0
  · obtain ⟨there, accountable⟩ := stays 1 [.table 0 .refresh, .complete 0 (.page [] none)]
    have fresh : assignable.dialogs.length = 0 := by decide +kernel
    rw [fresh] at there
    refine ⟨d, opens.purpose ▸ opens, there, fun result => ?_⟩
    exact closes 1 result later accountable (by decide +kernel)
  · cases edits
  · have opens : asked.dialogs.length = 1 := by decide +kernel
    have none : (assignable.describing 0).dialogs.length = 0 := by decide +kernel
    rw [show asked = assignable.describing 0 from congrArg Prod.snd raised, none] at opens
    cases opens

end Application

end PagedTable
