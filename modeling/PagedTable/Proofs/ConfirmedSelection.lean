import PagedTable.Proofs.PageOrder
import PagedTable.Proofs.Triggering

namespace PagedTable

-- The actions that ask before they do something to the selected rows, with what they ask and what is
-- then to be done.
inductive ActionForm.Confirms : ActionForm → TextPair → TextPair → (List Value → Intent) → Prop where
  | removal (title message : TextPair) : Confirms (.removal title message) title message .remove
  | unassignment (title message : TextPair) : Confirms (.unassignment title message) title message .unassign

theorem ActionForm.confirms_removal {form : ActionForm} (kind : form.kind = .remove) :
    ∃ title message, form.Confirms title message .remove := by
  cases form with
  | removal title message => exact ⟨title, message, .removal title message⟩
  | dialog purpose plan => cases purpose <;> cases kind
  | _ => cases kind

namespace Application

variable {run : Run} {key : Nat} {w : Application}

-- What the provider is asked where the user agrees in a state: to remove the rows, or to take them from
-- the parent that is bound in it, where that has an identity.
inductive Agreed (q : OpenQuestion) (u : Application) : MutationKind → ProviderCall → Prop where
  | removed {ids : List Value} (intends : q.intent = .remove ids) : Agreed q u .remove (.remove ids)
  | unassigned {ids : List Value} {p : Value} (intends : q.intent = .unassign ids)
      (bound : (u.view q.key).parentId = .ok p) (real : p.isNull = false) :
      Agreed q u .unassign (.unassign p ids)

-- What a completion of a mutation that clears the selection does to it. Only the first one at an open
-- table clears it, and only where it is a success.
inductive Clears (run : Run) (m : Nat) (x : Mutation) (o : Outcome) (y : Application) : Prop where
  | passed (ended : x.done = true ∨ (y.table x.key).closed = true) (u : Application)
      (nothing : (mutationDone run m o).outcome y = (.ok (), u)) (kept : ∀ k, u.view k = y.view k)
  | failed (first : x.done = false) (opened : (y.table x.key).closed = false)
      (fails : ∀ r, ¬ o.Succeeds r) (ns : List Notice)
      (told : (mutationDone run m o).outcome y = (.ok (), (y.concluding run m x.key).notices ns))
      (kept : Observing run → ∀ k, ((mutationDone run m o).after y).view k = y.view k)
  | cleared (first : x.done = false) (opened : (y.table x.key).closed = false) (r : MutationResult)
      (succeeds : o.Succeeds r) (ns : List Notice)
      (shown : (mutationDone run m o).outcome y = (refresh run x.key).outcome
        (clearSelection run x.key ((y.concluding run m x.key).notices ns)))

inductive Decides (depth : Nat) (q : OpenQuestion) (answer : Value) (u : Application) : Prop where
  | declined (no : answer.same (.text Button.yes.text) = false)
      (nothing : (answered (runTo depth) q answer).outcome u = (.ok (), u))
  | done (yes : answer.same (.text Button.yes.text) = true) (opened : (u.table q.key).closed = false)
      (kind : MutationKind) (c : ProviderCall) (agreed : Agreed q u kind c)
      (asked : AsksOnce (runTo depth) (answered (runTo depth) q answer) u
        { key := q.key, kind, sequel := .clearQuietly } c)
      (clears : ∀ deep y done o, y.mutation? u.mutations.length =
          some { key := q.key, kind, sequel := .clearQuietly, done } →
        Clears (runTo deep) u.mutations.length { key := q.key, kind, sequel := .clearQuietly, done } o y)
  | barred (yes : answer.same (.text Button.yes.text) = true)
      (none : (u.table q.key).closed = true ∨ ∀ kind c, ¬ Agreed q u kind c)
      (r : Except Fault Unit) (ns : List Notice)
      (told : (answered (runTo depth) q answer).outcome u = (r, u.notices ns))

section Completing

variable {m : Nat} {x : Mutation} {y : Application}

theorem OnlyBusy.view {asked : List OpenCall} {u : Application} (only : OnlyBusy asked y u) (k : Nat) :
    u.view k = y.view k := by
  have same := congrArg Table.view (only.tables k)
  exact same

theorem mutation_clears (quiet : x.sequel = .clearQuietly) (found : y.mutation? m = some x) (o : Outcome) :
    Clears run m x o y := by
  cases done : x.done with
  | true => exact .passed (.inl done) y (again_nothing found done o) fun _ => rfl
  | false =>
    cases closed : (y.table x.key).closed with
    | true =>
      refine .passed (.inr closed) _ (first_closed found done closed o) fun k => ?_
      exact (settled_busy m x.key y).view k
    | false =>
      by_cases succeeds : ∃ r, o.Succeeds r
      · obtain ⟨r, succeeds⟩ := succeeds
        obtain ⟨pair, text, -, -, shown, -⟩ := (success_follows found done closed succeeds).succeeded
        have sequel : runSequel run x.key .clearQuietly r = Act.change (clearSelection run x.key) := rfl
        rw [quiet, sequel, Act.outcome_change_bind] at shown
        exact .cleared done closed r succeeds _ shown
      · have fails (r : MutationResult) : ¬ o.Succeeds r := fun succeeds' => succeeds ⟨r, succeeds'⟩
        obtain ⟨⟨e, pair, box, -, -, -, told⟩, unchanged⟩ := failure_reported found done closed fails
        refine .failed done closed fails _ told fun observing k => ?_
        have same := congrArg Table.view ((unchanged observing).2.2 k)
        exact same

end Completing

section Answering

variable {q : OpenQuestion} {u : Application} {depth : Nat}

theorem agreed_decides {answer : Value} (yes : answer.same (.text Button.yes.text) = true)
    (accountable : u.Accountable) {kind : MutationKind} {c : ProviderCall} (agreed : Agreed q u kind c)
    (begins : (answered (runTo depth) q answer).outcome u =
      (mutate (runTo depth) q.key kind c .clearQuietly).outcome u) : Decides depth q answer u := by
  cases closed : (u.table q.key).closed with
  | true =>
    refine .barred yes (.inl closed) (.ok ()) [] (begins.trans ?_)
    unfold mutate
    rw [Act.outcome_get_bind, if_pos closed]
    rfl
  | false =>
    refine .done yes closed kind c agreed (mutate_asks_once rfl closed accountable begins) ?_
    exact fun deep y done o found => mutation_clears rfl found o

theorem answered_decides {ids : List Value} (some : ids ≠ [])
    (intends : q.intent = .remove ids ∨ q.intent = .unassign ids) (accountable : u.Accountable)
    (answer : Value) : Decides depth q answer u := by
  cases yes : answer.same (.text Button.yes.text) with
  | false =>
    refine .declined yes ?_
    unfold answered
    rw [if_neg (by simp [yes])]
    rfl
  | true =>
    rcases intends with removal | unassignment
    · have agreeing : answered (runTo depth) q answer =
          removeRows (runTo depth) q.key ids .clearQuietly := by
        unfold answered
        rw [if_pos yes, removal]
      refine agreed_decides yes accountable (.removed removal) ?_
      rw [agreeing]
      exact removeRows_some .clearQuietly some u
    · have agreeing : answered (runTo depth) q answer =
          unassignRows (runTo depth) q.key ids .clearQuietly := by
        unfold answered
        rw [if_pos yes, unassignment]
      by_cases bound : ∃ p, (u.view q.key).parentId = .ok p ∧ p.isNull = false
      · obtain ⟨p, bound, real⟩ := bound
        refine agreed_decides yes accountable (.unassigned unassignment bound real) ?_
        rw [agreeing]
        exact forParent_bound .unassign .unassign .clearQuietly bound real some
      · obtain ⟨r, ns, told⟩ :=
          forParent_unbound (runTo depth) .unassign .unassign ids .clearQuietly bound
        refine .barred yes (.inr fun kind c agreed => ?_) r ns (agreeing ▸ told)
        cases agreed with
        | removed intends => simp [unassignment] at intends
        | unassigned _ there real => exact bound ⟨_, there, real⟩

end Answering

section Triggering

variable {action : String} {row : Value} {a : Action} {title message : TextPair} {intent : List Value → Intent}

theorem confirms_asks (confirms : a.form.Confirms title message intent) (ctx : ActionContext) :
    perform run key a ctx = askForSelection key title message intent ctx := by
  unfold perform
  generalize a.form = form at confirms
  cases confirms <;> rfl

theorem confirms_intends (confirms : a.form.Confirms title message intent) (ids : List Value) :
    intent ids = .remove ids ∨ intent ids = .unassign ids := by
  generalize a.form = form at confirms
  cases confirms
  · exact .inl rfl
  · exact .inr rfl

theorem trigger_unselected (found : (w.view key).triggered? key action row = some a)
    (confirms : a.form.Confirms title message intent) (none : (w.view key).selected = []) :
    ∃ box, w.workspace.failureBox noneSelected Option.none (some selectOne) [] = .ok box ∧
      (trigger run key action row).outcome w = (.ok true, (w.describing key).notices box) := by
  obtain ⟨box, boxed, reported⟩ := report_failure noneSelected Option.none (some selectOne) (w.describing key)
  refine ⟨box, boxed, trigger_outcome found (r := .ok ()) ?_⟩
  rw [confirms_asks confirms]
  unfold askForSelection
  rw [if_pos (List.isEmpty_iff.mpr none : ((w.view key).context key row).selection.isEmpty = true),
    Act.outcome_bind_ok reported]
  rfl

def inPageOrder (v : TableView) : Except Fault (List Value) :=
  TableView.arrange (Members.ofList v.selected) (v.rows.map v.idOf)

theorem selected_ordered (reached : Reached w) (found : (w.view key).triggered? key action row = some a) :
    (onView key fun x => x.orderIds (w.view key).selected).outcome (w.describing key) =
      (inPageOrder (w.view key), w.describing key) := by
  obtain ⟨n, d, e, read, -⟩ := TableView.triggered_some found
  let v := (w.view key).describe.1
  have cached : v.describe = (v, .ok (n, d)) := TableView.describe_cached (TableView.describe_caches read)
  have kept : TableView.Kept (w.view key) v := TableView.describe_kept _
  have page : v.rows.map v.idOf = (w.view key).rows.map (w.view key).idOf := by
    rw [kept.rows.1]
    exact List.map_congr_left fun row _ => TableView.idOf_described _ row
  have hashed : (w.view key).Hashed := (reached.path key).hashed
  have described : (w.describing key).view key = v := describing_view key w
  rw [outcome_onView, described, TableView.orderIds_known cached hashed, page]
  exact Prod.ext rfl (modifyView_same key v w)

theorem trigger_selected (run : Run) (reached : Reached w)
    (found : (w.view key).triggered? key action row = some a)
    (confirms : a.form.Confirms title message intent) (some : (w.view key).selected ≠ [])
    {r : Except Fault Unit} {u : Application}
    (asked : (match inPageOrder (w.view key) with
      | .ok ids => (ask key title message (intent ids) ((w.view key).context key row)).outcome (w.describing key)
      | .error e => (.error e, w.describing key)) = (r, u)) :
    (trigger run key action row).outcome w = (r.map fun _ => true, u) := by
  refine trigger_outcome found (Eq.trans ?_ asked)
  rw [confirms_asks confirms]
  unfold askForSelection
  rw [if_neg (mt List.isEmpty_iff.mp some : ¬ ((w.view key).context key row).selection.isEmpty = true),
    Act.outcome_bind]
  have chosen : ((w.view key).context key row).selection = (w.view key).selected := rfl
  rw [chosen, selected_ordered reached found]
  cases inPageOrder (w.view key) <;> rfl

end Triggering

-- An action that asks before it does something to the selected rows, when it is triggered in a state that
-- can come about. Where nothing is selected that is said, and nothing more is done. Otherwise one question
-- is asked, about the identities that are selected then, each once, those of the page first and in its
-- order; the question stays as it is, and each answer is decided upon when it comes. Where an identity of
-- the page cannot be looked for, or there is no mediator, what was triggered raises and nobody is asked.
theorem selection_confirmed (reached : Reached w) {action : String} {row : Value} {a : Action}
    (found : (w.view key).triggered? key action row = some a) {title message : TextPair}
    {intent : List Value → Intent} (confirms : a.form.Confirms title message intent) (depth : Nat) :
    let page := (w.view key).rows.map (w.view key).idOf
    let selected := (w.view key).selected
    let ran := (trigger (runTo depth) key action row).outcome w
    (selected = [] → ∃ box, w.workspace.failureBox noneSelected none (some selectOne) [] = .ok box ∧
      ran = (.ok true, (w.describing key).notices box)) ∧
    (selected ≠ [] → (∃ id ∈ page, id.isSought = false) → ran = (.error .unsupported, w.describing key)) ∧
    (selected ≠ [] → (∀ id ∈ page, id.isSought = true) → w.workspace.hasDialogs = false →
      ran = (.error .noMediator, w.describing key)) ∧
    (selected ≠ [] → (∀ id ∈ page, id.isSought = true) → w.workspace.hasDialogs = true →
      ∃ ids titleText messageText,
        let q : OpenQuestion := { key, context := (w.view key).context key row, intent := intent ids }
        Members.Ordered page selected ids ∧
        w.workspace.pairWording title [] = .ok titleText ∧
        w.workspace.pairWording message [] = .ok messageText ∧
        ran = (.ok true, (w.describing key).questioned q titleText messageText) ∧
        (∀ deep steps, let u := ran.2.played deep steps
          u.prompt? (.question w.questions.length) = some (.question q) ∧ u.Accountable) ∧
        ∀ deep answer u, u.Accountable → Decides deep q answer u) := by
  intro page selected ran
  have hashed : (w.view key).Hashed := (reached.path key).hashed
  have asking := @trigger_selected key w action row a title message intent (runTo depth) reached found confirms
  refine ⟨fun none => trigger_unselected found confirms none, fun some unsought => ?_,
    fun some sought missing => ?_, fun some sought there => ?_⟩
  · refine asking some (r := .error .unsupported) ?_
    rw [show inPageOrder (w.view key) = .error .unsupported from TableView.arrange_unsought unsought]
  · obtain ⟨ids, arranged, -⟩ := TableView.arrange_ordered sought hashed
    refine asking some (r := .error .noMediator) ?_
    rw [show inPageOrder (w.view key) = .ok ids from arranged]
    exact ask_unmediated title message (intent ids) _ missing
  · obtain ⟨ids, arranged, ordered⟩ := TableView.arrange_ordered sought hashed
    obtain ⟨titleText, messageText, entitled, worded, asked⟩ := ask_mediated key title message (intent ids)
      ((w.view key).context key row) (w := w.describing key) there
    let q : OpenQuestion := { key, context := (w.view key).context key row, intent := intent ids }
    have questioned : ran = (.ok true, (w.describing key).questioned q titleText messageText) := by
      refine asking some (r := .ok ()) ?_
      rw [show inPageOrder (w.view key) = .ok ids from arranged]
      exact asked
    -- the question keeps its number, and the state in which it is answered may be any later one
    refine ⟨ids, titleText, messageText, ordered, entitled, worded, questioned,
      fun deep steps => ?_, fun deep answer u accountable => ?_⟩
    · refine reached.prompt_stays depth ?_ deep steps
      rw [Act.after_eq, show (trigger (runTo depth) key action row).outcome w = _ from questioned]
      exact congrArg (Option.map Prompt.question) List.getElem?_concat_length
    · have chosen : ids ≠ [] := ordered.nonempty hashed some
      exact answered_decides chosen (confirms_intends confirms ids) accountable answer

def removal : Action :=
  let form : ActionForm := .removal ActionForm.removalTitle ActionForm.removalMessage
  { form, id := .shared .remove, name := form.defaultName, icon := form.defaultIcon, tooltip := "",
    color := form.defaultColor, visibleIf := none, enabledIf := none }

def picked (workspace : Workspace) (multiple : Bool) (page wanted : List Value) : Application :=
  let plan := TableSheet.plan
    { table := some (.ok { rowSelection := { enabled := true, multiple } }),
      actions := some (.ok [removal]) }
  ((openTable 0 { plan }).after { workspace }).played 1
    [.table 0 .refresh, .complete 0 (.page (page.map fun id => .map [("id", id)]) none), .table 0 (.select wanted)]

theorem picked_reached (workspace : Workspace) (multiple : Bool) (page wanted : List Value) :
    Reached (picked workspace multiple page wanted) :=
  (Reached.opened (.start workspace []) rfl _).played 1 _

-- An application that can come about, in which a removal has rows to remove and asks nobody.
def AsksNobody (w : Application) : Prop :=
  Reached w ∧ (w.view 0).selected.isEmpty = false ∧
    (((w.view 0).triggered? 0 "remove" .null).map fun a => a.form.kind) = some .remove ∧
    ((trigger (runTo 0) 0 "remove" .null).after w).questions.isEmpty = true

-- Without a mediator, or with a mapping among the identities of the page, nobody is asked.
theorem picked_unasked :
    AsksNobody (picked { hasDialogs := false } true [.text "a", .text "b"] [.text "a"]) ∧
      AsksNobody (picked {} false [.text "a", .map [("id", .text "b")]] [.text "a"]) :=
  ⟨⟨picked_reached .., by decide +kernel, by decide +kernel, by decide +kernel⟩,
    picked_reached .., by decide +kernel, by decide +kernel, by decide +kernel⟩

-- With a mediator the user is asked about two rows, and is to decide about both when neither is there any more.
theorem picked_confirmed :
    let w := picked {} true [.text "a", .text "b", .text "c"] [.text "c", .text "a"]
    let v := w.view 0
    let later := ((trigger (runTo 0) 0 "remove" .null).after w).played 1
      [.table 0 .refresh, .complete 1 (.page [] none)]
    Value.sameItems v.selected [.text "a", .text "c"] = true ∧ (later.view 0).selected.isEmpty = true ∧
      ∃ ids q, Members.Ordered (v.rows.map v.idOf) v.selected ids ∧ q.intent = .remove ids ∧
        later.prompt? (.question 0) = some (.question q) ∧ ∀ answer, Decides 1 q answer later := by
  intro w v later
  have catalogue : (v.triggered? 0 "remove" .null).map (fun a => a.form.kind) = some .remove := by
    decide +kernel
  obtain ⟨a, found, kind⟩ := Option.map_eq_some_iff.mp catalogue
  obtain ⟨title, message, confirms⟩ := ActionForm.confirms_removal kind
  have sought : ∀ id ∈ v.rows.map v.idOf, id.isSought = true := by decide +kernel
  have some : v.selected ≠ [] := mt List.isEmpty_iff.mpr (by decide +kernel)
  have mediated : w.workspace.hasDialogs = true := by decide +kernel
  have unasked : w.questions.length = 0 := by decide +kernel
  obtain ⟨ids, titleText, messageText, ordered, -, -, -, stays, decides⟩ :=
    (selection_confirmed (picked_reached ..) found confirms 0).2.2.2 some sought mediated
  obtain ⟨there, accountable⟩ := stays 1 [.table 0 .refresh, .complete 1 (.page [] none)]
  rw [unasked] at there
  exact ⟨by decide +kernel, by decide +kernel, ids, _, ordered, rfl, there,
    fun answer => decides 1 answer _ accountable⟩

end Application

end PagedTable
