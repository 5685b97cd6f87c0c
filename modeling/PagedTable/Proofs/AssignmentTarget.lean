import PagedTable.Proofs.Weaving.Running

namespace PagedTable

def Mark.bindsParent : Mark → Bool
  | .parentBound => true
  | _ => false

namespace TableView

-- The same table under the same entity.
structure StillBound (v v' : TableView) : Prop where
  plan : v'.plan = v.plan
  parent : Flagged v.parent v'.parent
  made : v.made ≤ v'.made

theorem StillBound.refl (v : TableView) : StillBound v v := ⟨rfl, .refl, Nat.le_refl _⟩

theorem StillBound.trans {u v w : TableView} (one : StillBound u v) (two : StillBound v w) :
    StillBound u w :=
  ⟨two.plan.trans one.plan, one.parent.trans two.parent, Nat.le_trans one.made two.made⟩

theorem Kept.stillBound {v v' : TableView} (kept : Kept v v') : StillBound v v' := by
  refine ⟨kept.plan, ?_, kept.made⟩
  rw [kept.parent]
  exact .refl

theorem Change.stillBound {v v' : TableView} (change : Change v v') : StillBound v v' := by
  rcases change.kept with kept | ⟨name, value, entity, set, rfl⟩
  · exact kept.stillBound
  · exact ⟨rfl, .single ⟨name, value, set⟩, Nat.le_refl _⟩

theorem shown_stillBound (v : TableView) (page : Page) (keep : Bool) :
    StillBound v (v.shown page keep) := by
  have kept := (shown_kept v page keep).stillBound
  exact ⟨kept.plan, kept.parent, kept.made⟩

theorem bound_numbered (v : TableView) (parent : Value) : (v.bound parent).Numbered :=
  fun described => absurd rfl described

-- The action of the catalogue that is performed when it is triggered now.
def triggered? (v : TableView) (key : Nat) (action : String) (row : Value) : Option Action :=
  match v.describe.2 with
  | .error _ => none
  | .ok (_, d) =>
    match d.action? action with
    | none => none
    | some a => if a.isEnabled (v.context key row) then a.action else none

theorem triggered_some {v : TableView} {key : Nat} {action : String} {row : Value} {a : Action}
    (found : v.triggered? key action row = some a) :
    ∃ n d e, v.describe.2 = .ok (n, d) ∧ d.action? action = some e ∧
      e.isEnabled (v.context key row) = true ∧ e.action = some a := by
  unfold triggered? at found
  cases read : v.describe.2 with
  | error e => simp [read] at found
  | ok described =>
    obtain ⟨n, d⟩ := described
    cases known : d.action? action with
    | none => simp [read, known] at found
    | some e =>
      cases enabled : e.isEnabled (v.context key row) with
      | false => simp [read, known, enabled] at found
      | true =>
        simp only [read, known, enabled, if_true] at found
        exact ⟨n, d, e, rfl, known, enabled, found⟩

theorem describe_context (v : TableView) (key : Nat) (row : Value) :
    v.describe.1.context key row = v.context key row := by
  unfold describe
  split
  · rfl
  · split <;> rfl

end TableView

namespace Strand

variable {key : Nat} {s s' : Strand}

theorem unopened_not (used : 0 < s.table.view.made) : s.table ≠ {} := by
  intro unopened
  rw [unopened] at used
  exact absurd used (Nat.lt_irrefl 0)

theorem Move.stillBound (move : Move key s s') :
    (s.table ≠ {} → s.table.view.StillBound s'.table.view) ∨
      ∃ m, s'.marks = m :: s.marks ∧ m.bindsParent = true := by
  have same : s.table.view.StillBound s.table.view := .refl _
  cases move with
  | opened unused view bare numbered keep => exact .inl (absurd unused)
  | view change => exact .inl fun _ => change.stillBound
  | turn next other => exact .inl fun _ => (TableView.inMode_kept _ next).stillBound
  | empty top keep => exact .inl fun _ => TableView.shown_stillBound _ _ _
  | receive answered page keep => exact .inl fun _ => TableView.shown_stillBound _ _ _
  | bind parent => exact .inr ⟨_, rfl, rfl⟩
  | recount top =>
    obtain ⟨busy, holds, events, sights, recounted⟩ := recounted_eq key s
    rw [recounted]
    exact .inl fun _ => same
  | _ => exact .inl fun _ => same

theorem Path.stillBound (path : Path key s s') :
    ∃ new, s'.marks = new ++ s.marks ∧ ((∀ m ∈ new, m.bindsParent = false) →
      0 < s.table.view.made → s.table.view.StillBound s'.table.view) :=
  Path.unless
    (fun s s' => 0 < s.table.view.made → s.table.view.StillBound s'.table.view)
    (fun _ _ => .refl _)
    (fun one two used => (one used).trans (two (Nat.lt_of_lt_of_le used (one used).made)))
    (fun move => move.stillBound.imp_left fun still used => still (unopened_not used)) path

theorem Move.samePlan (move : Move key s s') (used : s.table ≠ {}) :
    s'.table.view.plan = s.table.view.plan ∧ s.table.view.made ≤ s'.table.view.made := by
  cases move with
  | opened unused view bare numbered keep => exact absurd unused used
  | view change => exact ⟨change.stillBound.plan, change.stillBound.made⟩
  | turn next other =>
    have kept := TableView.inMode_kept s.table.view next
    exact ⟨kept.plan, kept.made⟩
  | empty top keep | receive answered page keep =>
    have still := TableView.shown_stillBound s.table.view
    exact ⟨(still _ _).plan, (still _ _).made⟩
  | recount top =>
    obtain ⟨busy, holds, events, sights, recounted⟩ := recounted_eq key s
    rw [recounted]
    exact ⟨rfl, Nat.le_refl _⟩
  | _ => exact ⟨rfl, Nat.le_refl _⟩

theorem Path.samePlan (path : Path key s s') (used : 0 < s.table.view.made) :
    s'.table.view.plan = s.table.view.plan ∧ s.table.view.made ≤ s'.table.view.made := by
  induction path with
  | refl => exact ⟨rfl, Nat.le_refl _⟩
  | tail _ move ih =>
    obtain ⟨plan, made⟩ := move.samePlan (unopened_not (Nat.lt_of_lt_of_le used ih.2))
    exact ⟨plan.trans ih.1, Nat.le_trans ih.2 made⟩

theorem Move.numbered (move : Move key s s') (numbered : s.table.view.Numbered) :
    s'.table.view.Numbered := by
  cases move with
  | opened unused view bare fresh keep => exact fresh
  | view change =>
    rcases change.kept with kept | ⟨name, value, entity, -, rfl⟩
    · exact kept.numbered numbered
    · exact numbered
  | turn next other => exact (TableView.inMode_kept _ next).numbered numbered
  | empty top keep => exact (TableView.shown_kept _ _ _).numbered numbered
  | receive answered page keep => exact (TableView.shown_kept _ _ _).numbered numbered
  | bind parent => exact s.table.view.bound_numbered parent
  | recount top =>
    obtain ⟨busy, holds, events, sights, recounted⟩ := recounted_eq key s
    rw [recounted]
    exact numbered
  | _ => exact numbered

theorem Path.numbered (path : Path key s s') (numbered : s.table.view.Numbered) :
    s'.table.view.Numbered := by
  induction path with
  | refl => exact numbered
  | tail _ move ih => exact move.numbered ih

end Strand

namespace Application
open Strand

inductive Prompt where
  | dialog (d : OpenDialog)
  | question (q : OpenQuestion)

namespace Prompt

def key : Prompt → Nat
  | .dialog d => d.key
  | .question q => q.key

def context : Prompt → ActionContext
  | .dialog d => d.context
  | .question q => q.context

def answered (run : Run) (x : Prompt) (answer : Value) : Act Application Unit :=
  match x with
  | .dialog d => dialogClosed run d answer
  | .question q => Application.answered run q answer

-- An action that assigns opens a chooser, one that unassigns asks whether to.
inductive Assigns (key : Nat) (context : ActionContext) : ActionKind → Prompt → Prop where
  | chooser (idField : String) (params : DialogParams) :
      Assigns key context .assign (.dialog { key, context, purpose := .assign idField, params })
  | confirmation (ids : List Value) :
      Assigns key context .unassign (.question { key, context, intent := .unassign ids })

def kind : Prompt → MutationKind
  | .dialog _ => .assign
  | .question _ => .unassign

def call : Prompt → Value → List Value → ProviderCall
  | .dialog _ => .assign
  | .question _ => .unassign

end Prompt

inductive Place where
  | dialog (n : Nat)
  | question (n : Nat)

def prompt? (w : Application) : Place → Option Prompt
  | .dialog n => w.dialogs[n]?.map .dialog
  | .question n => w.questions[n]?.map .question

variable {key : Nat} {w w' : Application} {run : Run}

theorem Grows.prompt {place : Place} {x : Prompt} (grows : Grows w w')
    (asked : w.prompt? place = some x) : w'.prompt? place = some x := by
  have stays {α : Type} {items more : List α} {n : Nat} {a : α} (longer : items <+: more)
      (found : items[n]? = some a) : more[n]? = some a := by
    obtain ⟨rest, rfl⟩ := longer
    rw [List.getElem?_append_left (List.getElem?_eq_some_iff.mp found).1, found]
  cases place with
  | dialog n =>
    obtain ⟨d, found, rfl⟩ := Option.map_eq_some_iff.mp asked
    exact Option.map_eq_some_iff.mpr ⟨d, stays grows.dialogs found, rfl⟩
  | question n =>
    obtain ⟨q, found, rfl⟩ := Option.map_eq_some_iff.mp asked
    exact Option.map_eq_some_iff.mpr ⟨q, stays grows.questions found, rfl⟩

section Triggering

-- What waits for an answer once a prompt is there too.
def asking (w : Application) : Prompt → List OpenDialog × List OpenQuestion
  | .dialog d => (w.dialogs ++ [d], w.questions)
  | .question q => (w.dialogs, w.questions ++ [q])

theorem prompt_asking {place : Place} {x y : Prompt} (added : w'.unanswered = w.asking x)
    (free : w.prompt? place = none) (asked : w'.prompt? place = some y) : y = x := by
  have last {α : Type} {items : List α} {n : Nat} {a b : α} (none : items[n]? = none)
      (found : (items ++ [a])[n]? = some b) : b = a := by
    rw [List.getElem?_append_right (List.getElem?_eq_none_iff.mp none)] at found
    exact List.mem_singleton.mp (List.mem_of_getElem? found)
  cases x <;> cases place <;> obtain ⟨dialogs, questions⟩ := Prod.mk.inj added
  all_goals
    obtain ⟨z, found, rfl⟩ := Option.map_eq_some_iff.mp asked
    have none := Option.map_eq_none_iff.mp free
  · rw [dialogs] at found
    rw [last none found]
  · rw [questions, none] at found
    cases found
  · rw [dialogs, none] at found
    cases found
  · rw [questions] at found
    rw [last none found]

theorem prompt_same {place : Place} {y : Prompt} (same : w'.unanswered = w.unanswered)
    (free : w.prompt? place = none) : w'.prompt? place ≠ some y := by
  obtain ⟨dialogs, questions⟩ := Prod.mk.inj same
  cases place <;> simp_all [prompt?]

theorem requireMediator_outcome (w : Application) :
    requireMediator.outcome w = (.ok (), w) ∨ ∃ e, requireMediator.outcome w = (.error e, w) := by
  unfold requireMediator
  rw [Act.outcome_get_bind]
  split
  · exact .inr ⟨_, rfl⟩
  · exact .inl rfl

theorem openDialog_asks (a : Action) (idField : String) (plan : DialogPlan) (ctx : ActionContext)
    (w : Application) :
    let opened := (openDialog key a (.assign idField) plan ctx).after w
    opened.unanswered = w.unanswered ∨ ∃ params, opened.unanswered =
      w.asking (.dialog { key, context := ctx, purpose := .assign idField, params }) := by
  intro opened
  unfold opened openDialog dialogParams
  cases plan.params (ActionForm.dialogMode (.assign idField)) .null ctx with
  | error e => exact .inl rfl
  | ok params =>
    rw [Act.after_bind, Act.outcome_bind_ok (Act.outcome_result _ w), Act.outcome_pure]
    dsimp only
    rw [Act.after_get_bind, Act.after_bind]
    rcases requireMediator_outcome w with there | ⟨e, missing⟩
    · rw [there]
      exact .inr ⟨params, rfl⟩
    · rw [missing]
      exact .inl rfl

theorem ask_asks (key : Nat) (title message : TextPair) (intent : Intent) (ctx : ActionContext) (w : Application) :
    let asked := (ask key title message intent ctx).after w
    asked.unanswered = w.unanswered ∨
      asked.unanswered = w.asking (.question { key, context := ctx, intent }) := by
  intro asked
  unfold asked ask
  rw [Act.after_bind]
  rcases requireMediator_outcome w with there | ⟨e, missing⟩
  · rw [there]
    dsimp only
    rw [Act.after_get_bind, Act.after_result_bind]
    split
    · rw [Act.after_result_bind]
      split
      · exact .inr rfl
      · exact .inl rfl
    · exact .inl rfl
  · rw [missing]
    exact .inl rfl

theorem askForSelection_asks (title message : TextPair) (intent : List Value → Intent)
    (ctx : ActionContext) (w : Application) :
    let asked := (askForSelection key title message intent ctx).after w
    asked.unanswered = w.unanswered ∨ ∃ ids, asked.unanswered =
      w.asking (.question { key, context := ctx, intent := intent ids }) := by
  intro asked
  unfold asked askForSelection
  split
  · obtain ⟨r, ns, reported⟩ := report_outcome (.failure noneSelected) none (some selectOne) w
    rw [Act.after_bind, reported]
    cases r <;> exact .inl (notices_alike ns).unanswered
  · rw [after_onView_bind]
    cases ((w.view key).orderIds ctx.selection).2 with
    | error e => exact .inl rfl
    | ok ids =>
      rcases ask_asks key title message (intent ids) ctx (w.modifyView key fun _ =>
        ((w.view key).orderIds ctx.selection).1) with same | asked
      · exact .inl same
      · exact .inr ⟨ids, asked⟩

theorem trigger_after {action : String} {row : Value} {a : Action}
    (found : (w.view key).triggered? key action row = some a) :
    (trigger run key action row).after w =
      (perform run key a ((w.view key).context key row)).after
        (w.modifyView key fun _ => (w.view key).describe.1) := by
  obtain ⟨n, d, e, read, known, enabled, performed⟩ := TableView.triggered_some found
  unfold trigger
  rw [after_onView_bind, read]
  dsimp only
  rw [Act.after_get_bind, view_modifyView, TableView.describe_context, known]
  dsimp only
  rw [if_neg (by simp [enabled]), performed]
  exact Act.after_bind_pure _ (fun _ => true) _

theorem trigger_asks (run : Run) {action : String} {row : Value} {a : Action}
    (found : (w.view key).triggered? key action row = some a)
    (assigning : a.form.kind = .assign ∨ a.form.kind = .unassign) :
    let triggered := (trigger run key action row).after w
    triggered.unanswered = w.unanswered ∨ ∃ x : Prompt,
      x.Assigns key ((w.view key).context key row) a.form.kind ∧ triggered.unanswered = w.asking x := by
  intro triggered
  unfold triggered
  rw [trigger_after found]
  generalize (w.view key).context key row = ctx
  unfold perform
  cases form : a.form with
  | dialog purpose plan =>
    cases purpose with
    | assign idField =>
      refine (openDialog_asks a idField plan ctx _).imp_right ?_
      rintro ⟨params, opened⟩
      exact ⟨_, .chooser idField params, opened⟩
    | _ => simp [form, ActionForm.kind] at assigning
  | unassignment title message =>
    refine (askForSelection_asks title message .unassign ctx _).imp_right ?_
    rintro ⟨ids, asked⟩
    exact ⟨_, .confirmation ids, asked⟩
  | _ => simp [form, ActionForm.kind] at assigning

end Triggering

section Answering

-- What an answer comes to in a state: nothing is asked of the provider, or a mutation for the parent
-- that is bound in it. For what was triggered on a view this is the entity whose flags were looked at
-- just where the parent has the identity that it had then.
inductive Lands (run : Run) (x : Prompt) (answer : Value) (v : TableView) (u : Application) : Prop where
  | nothing (calls : ((x.answered run answer).after u).calls = u.calls)
  | asked (p : Value) (ids : List Value) (bound : (u.view x.key).parentId = .ok p)
      (made : { key := x.key, purpose := .mutation u.mutations.length, call := x.call p ids } ∈
        ((x.answered run answer).after u).calls)
      (same : (x.answered run answer).outcome u =
        (mutate run x.key x.kind (x.call p ids) .clearQuietly).outcome u)
      (intended : v.plan.parentId x.context.auth = .ok p ↔ (u.view x.key).parentId = v.parentId)

theorem checkParent_outcome (key : Nat) (kind : MutationKind) (u : Application) :
    (∃ p, (u.view key).parentId = .ok p ∧ p.isNull = false ∧
      (checkParent key kind).outcome u = (.ok p, u)) ∨
    ∃ r u', (checkParent key kind).outcome u = (r, u') ∧ u'.calls = u.calls ∧
      ∀ p, r = .ok p → p.isNull = true := by
  unfold checkParent
  rw [Act.outcome_get_bind]
  cases bound : (u.view key).parentId with
  | error e => exact .inr ⟨_, u, rfl, rfl, fun _ same => nomatch same⟩
  | ok p =>
    rw [Act.outcome_bind_ok (Act.outcome_result _ u)]
    cases null : p.isNull with
    | false => exact .inl ⟨p, rfl, null, rfl⟩
    | true =>
      obtain ⟨r, ns, reported⟩ := report_outcome (.failure (noParent kind.text)) none none u
      rw [if_pos rfl, Act.outcome_bind, reported]
      cases r with
      | error e => exact .inr ⟨_, _, rfl, calls_notices ns, fun _ same => nomatch same⟩
      | ok f =>
        refine .inr ⟨_, _, rfl, calls_notices ns, fun q same => ?_⟩
        rw [← Except.ok.inj same]
        exact null

theorem checkIds_outcome (kind : MutationKind) (ids : List Value) (u : Application) :
    (checkIds kind ids).outcome u = (.ok true, u) ∨
    ∃ r u', (checkIds kind ids).outcome u = (r, u') ∧ u'.calls = u.calls ∧ r ≠ .ok true := by
  unfold checkIds
  split
  · obtain ⟨r, ns, reported⟩ :=
      report_outcome (.failure (nothingChosen kind.text)) none (some selectOne) u
    rw [Act.outcome_bind, reported]
    cases r <;> exact .inr ⟨_, _, rfl, calls_notices ns, fun same => nomatch same⟩
  · exact .inl rfl

theorem forParent_outcome (run : Run) (key : Nat) (kind : MutationKind) (call : Value → List Value → ProviderCall)
    (ids : List Value) (sequel : Sequel) (u : Application) :
    ((forParent run key kind call ids sequel).after u).calls = u.calls ∨
    ∃ p, (u.view key).parentId = .ok p ∧ (forParent run key kind call ids sequel).outcome u =
      (mutate run key kind (call p ids) sequel).outcome u := by
  unfold forParent
  rcases checkParent_outcome key kind u with ⟨p, bound, parent, checked⟩ | ⟨r, u', checked, same, none⟩
  · rw [Act.outcome_bind_ok checked, Act.after_bind, checked]
    dsimp only
    rw [if_pos (by simp [parent])]
    rcases checkIds_outcome kind ids u with some | ⟨r, u', empty, same, none⟩
    · refine .inr ⟨p, bound, ?_⟩
      rw [Act.outcome_bind_ok some]
      rfl
    · refine .inl ?_
      rw [Act.after_bind, empty]
      cases r with
      | error e => exact same
      | ok b =>
        cases b with
        | false => exact same
        | true => exact absurd rfl none
  · refine .inl ?_
    rw [Act.after_bind, checked]
    cases r with
    | error e => exact same
    | ok p =>
      dsimp only
      rw [if_neg (by simp [none p rfl])]
      exact same

theorem Lands.of_forParent (scripts : Scripts run) {x : Prompt} {answer : Value} {v : TableView}
    {u : Application} {ids : List Value} (own : x.context.auth = v.parent)
    (same : (x.answered run answer).outcome u =
      (forParent run x.key x.kind x.call ids .clearQuietly).outcome u) : Lands run x answer v u := by
  rcases forParent_outcome run x.key x.kind x.call ids .clearQuietly u with
    calls | ⟨p, bound, asks⟩
  · exact .nothing (by rw [Act.after_eq, same]; exact calls)
  · have asked := same.trans asks
    cases closed : (u.table x.key).closed with
    | true =>
      refine .nothing ?_
      rw [Act.after_eq, asked, ← Act.after_eq, mutate_closed _ _ _ closed]
    | false =>
      refine .asked p ids bound ?_ asked ?_
      · rw [Act.after_eq, asked, ← Act.after_eq]
        apply (mutate_asked scripts x.kind (x.call p ids) .clearQuietly closed).calls
        exact List.mem_append_right _ (List.mem_singleton_self _)
      · rw [own, bound]
        exact eq_comm

theorem answered_lands (scripts : Scripts run) {v : TableView} {row : Value} {kind : ActionKind}
    {x : Prompt} (assigns : x.Assigns key (v.context key row) kind) (answer : Value) (u : Application) :
    Lands run x answer v u := by
  cases assigns with
  | chooser idField params =>
    let d : OpenDialog := { key, context := v.context key row, purpose := .assign idField, params }
    have closing : (Prompt.dialog d).answered run answer = dialogClosed run d answer := rfl
    unfold dialogClosed at closing
    split at closing
    · exact .nothing (by rw [closing]; rfl)
    · split at closing
      · exact .nothing (by rw [closing]; rfl)
      · have applied (ids : List Value) (chosen : answer.chosenIds idField = .ok ids) :
            ((Prompt.dialog d).answered run answer).outcome u =
              (if ids.isEmpty then pure () else assignRows run key ids .clearQuietly).outcome u := by
          rw [closing]
          change (Act.result (answer.chosenIds idField) >>= fun ids => _).outcome u = _
          rw [chosen]
          exact Act.outcome_bind_ok rfl
        cases chosen : answer.chosenIds idField with
        | error e => exact .nothing (by rw [closing]; simp [applyResult, d, chosen])
        | ok ids =>
          have reading := applied ids chosen
          split at reading
          · exact .nothing (by rw [Act.after_eq, reading]; rfl)
          · exact .of_forParent scripts rfl reading
  | confirmation ids =>
    let q : OpenQuestion := { key, context := v.context key row, intent := .unassign ids }
    have answering : (Prompt.question q).answered run answer = Application.answered run q answer := rfl
    unfold Application.answered at answering
    split at answering
    · exact .of_forParent scripts rfl (by rw [answering]; rfl)
    · exact .nothing (by rw [answering]; rfl)

end Answering

theorem opened_played_plan {o : Opening} (used : 0 < ((opened o).view 0).made) (depth : Nat)
    (steps : List Step) : (((opened o).played depth steps).view 0).plan = o.plan := by
  have path := (played_weaves depth steps (opened o)).paths 0 []
  exact (Path.samePlan path used).1.trans (opened_plan used)

-- While no parent is bound, a table on which something was triggered stays with the same entity.
theorem triggered_stillBound (reached : Reached w) {action : String} {row : Value} {a : Action}
    (found : (w.view key).triggered? key action row = some a) {u : Application}
    (woven : Weaves (w.modifyView key fun _ => (w.view key).describe.1) u) :
    ∃ new, u.marks key = new ++ w.marks key ∧
      (.parentBound ∉ new → (w.view key).StillBound (u.view key)) := by
  let described := w.modifyView key fun _ => (w.view key).describe.1
  have showing : described.view key = (w.view key).describe.1 := view_modifyView _
  have numbered : (w.view key).Numbered :=
    Path.numbered (reached.path key) fun described => absurd rfl described
  obtain ⟨n, d, e, read, -⟩ := TableView.triggered_some found
  have used : 0 < (w.view key).describe.1.made := TableView.describe_made numbered read
  obtain ⟨new, more, still⟩ := Path.stillBound (woven.paths key [])
  rw [marks_strand, marks_strand] at more
  refine ⟨new, more, fun unbound => ?_⟩
  have silent : ∀ m ∈ new, m.bindsParent = false := by
    intro m member
    cases m with
    | parentBound => exact absurd member unbound
    | _ => rfl
  have later : (described.view key).StillBound (u.view key) :=
    still silent (by rw [← showing] at used; exact used)
  rw [showing] at later
  exact (TableView.describe_kept _).stillBound.trans later

-- A prompt that is opened by an action which assigns or unassigns keeps its number, and the context
-- of the moment, whatever is played after; and the table stays with the entity of that context while
-- no other is bound. In whatever state the answer comes, it lands on the parent that is bound then.
theorem lands_on_bound_parent {action : String} {row : Value} {a : Action}
    (found : (w.view key).triggered? key action row = some a)
    (assigning : a.form.kind = .assign ∨ a.form.kind = .unassign) (depth : Nat)
    {place : Place} {x : Prompt} (free : w.prompt? place = none)
    (asked : ((trigger (runTo depth) key action row).after w).prompt? place = some x) :
    x.Assigns key ((w.view key).context key row) a.form.kind ∧
    (∀ deep steps,
      let u := ((trigger (runTo depth) key action row).after w).played deep steps
      u.prompt? place = some x ∧ (Reached w → ∃ new, u.marks key = new ++ w.marks key ∧
        (.parentBound ∉ new → (w.view key).StillBound (u.view key)))) ∧
    ∀ deep answer u, Lands (runTo deep) x answer (w.view key) u := by
  have assigns : x.Assigns key ((w.view key).context key row) a.form.kind := by
    rcases trigger_asks (runTo depth) found assigning with same | ⟨y, assigns, added⟩
    · exact absurd asked (prompt_same same free)
    · rw [prompt_asking added free asked]
      exact assigns
  refine ⟨assigns, fun deep steps => ?_, fun deep answer u => ?_⟩
  · have later := played_weaves deep steps ((trigger (runTo depth) key action row).after w)
    refine ⟨later.grows.prompt asked, fun reached => ?_⟩
    refine triggered_stillBound reached found (Weaves.trans ?_ later)
    rw [trigger_after found]
    exact perform_keeps (runTo_keeps depth) a _ _
  · exact answered_lands (runTo_keeps deep) assigns answer u

def site (id : String) (allowed : Bool) : Value :=
  .map [("id", .text id), ("can_assign", .bool allowed)]

def assignable : Application :=
  let form : ActionForm := .dialog (.assign "id") { component := .text "Chooser" }
  let choose : Action :=
    { form, id := .shared .add, name := form.defaultName, icon := form.defaultIcon, tooltip := "",
      color := form.defaultColor, visibleIf := none, enabledIf := some (.authFlag "can_assign") }
  opened { plan := TableSheet.plan { actions := some (.ok [choose]) }, parent := site "g1" true }

def rebound : Application :=
  assignable.played 1 [.table 0 (.trigger "add" .null), .table 0 (.setParent (site "g2" false))]

-- What is chosen for the first parent goes to the second.
theorem rebound_misdirected :
    Reached rebound ∧
    (rebound.dialogs.map fun d => d.context.auth.same (site "g1" true)) = [true] ∧
    ((rebound.played 1 [.closeDialog 0 (.list [.text "u1"])]).calls.map fun c =>
      match c.call with
      | .assign p _ => p.same (.text "g2")
      | _ => false) = [true] :=
  ⟨(opened_reached _).played 1 _, by decide +kernel, by decide +kernel⟩

theorem rebound_lands :
    ∃ x : Prompt, x.Assigns 0 ((assignable.view 0).context 0 .null) .assign ∧
      rebound.prompt? (.dialog 0) = some x ∧
      ∀ answer, Lands (runTo 1) x answer (assignable.view 0) rebound := by
  have catalogue : ((assignable.view 0).triggered? 0 "add" .null).map (fun a => a.form.kind) =
      some .assign := by decide +kernel
  have opens : (((trigger (runTo 0) 0 "add" .null).after assignable).prompt? (.dialog 0)).isSome =
      true := by decide +kernel
  have free : (assignable.prompt? (.dialog 0)).isNone = true := by decide +kernel
  have triggered : (runTo 1 (.table 0 (.trigger "add" .null))).after assignable =
      (trigger (runTo 0) 0 "add" .null).after assignable := Act.after_bind_pure _ _ _
  have reached : rebound =
      ((trigger (runTo 0) 0 "add" .null).after assignable).played 1 [.table 0 (.setParent (site "g2" false))] :=
    congrArg (fun w => w.played 1 [.table 0 (.setParent (site "g2" false))]) triggered
  obtain ⟨a, found, assigning⟩ := Option.map_eq_some_iff.mp catalogue
  obtain ⟨x, asked⟩ := Option.isSome_iff_exists.mp opens
  obtain ⟨assigns, stays, lands⟩ := lands_on_bound_parent found (.inl assigning) 0
    (Option.isNone_iff_eq_none.mp free) asked
  rw [assigning] at assigns
  refine ⟨x, assigns, ?_, fun answer => lands 1 answer rebound⟩
  rw [reached]
  exact (stays 1 _).1

end Application

end PagedTable
