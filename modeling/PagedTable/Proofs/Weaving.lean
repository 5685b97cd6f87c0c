import PagedTable.Proofs.Indicator
import PagedTable.Proofs.Outcomes
import PagedTable.Proofs.Strand

namespace PagedTable

def Event.shared? : Event → Option BusyEvent
  | .shared b _ => some b
  | _ => none

theorem Event.unshared {e : Event} {key : Nat} (own : e.key? = some key) : e.shared? = none := by
  cases e <;> first | rfl | cases own

namespace Application
open Strand

def told (w : Application) : List BusyEvent := (w.journal.filterMap Event.shared?).reverse

-- A mutation that has completed does not become one that has not.
def Matures (w w' : Application) : Prop :=
  ∀ m x, w.mutation? m = some x →
    ∃ done, w'.mutation? m = some { x with done } ∧ (x.done = true → done = true)

-- What waits for an answer keeps its number: dialogs and questions are only ever added. Mutations are
-- added and complete, and the shared indicator is acquired and released.
structure Grows (w w' : Application) : Prop where
  dialogs : w.dialogs <+: w'.dialogs
  questions : w.questions <+: w'.questions
  mutations : Matures w w'
  shared : ∃ steps, w'.indicator = (w.indicator.run steps).1 ∧
    w'.told = w.told ++ (w.indicator.run steps).2

theorem Matures.refl (w : Application) : Matures w w := fun _ x found => ⟨x.done, found, id⟩

theorem Matures.trans {u v w : Application} (one : Matures u v) (two : Matures v w) : Matures u w := by
  intro m x found
  obtain ⟨done, later, kept⟩ := one m x found
  obtain ⟨done', last, still⟩ := two m _ later
  exact ⟨done', last, fun was => still (kept was)⟩

theorem Grows.refl (w : Application) : Grows w w :=
  ⟨List.prefix_rfl, List.prefix_rfl, .refl w, [], rfl, (List.append_nil _).symm⟩

theorem Grows.trans {u v w : Application} (one : Grows u v) (two : Grows v w) : Grows u w := by
  obtain ⟨steps, indicator, told⟩ := one.shared
  obtain ⟨more, last, also⟩ := two.shared
  refine ⟨one.dialogs.trans two.dialogs, one.questions.trans two.questions,
    one.mutations.trans two.mutations, steps ++ more, ?_, ?_⟩
  · rw [last, indicator, BusyIndicator.run_append]
  · rw [also, told, indicator, BusyIndicator.run_append, List.append_assoc]

-- Every strand has moved on, whatever it had to do before.
structure Weaves (w w' : Application) : Prop where
  paths : ∀ key tasks, Path key (w.strand tasks key) (w'.strand tasks key)
  grows : Grows w w'

-- As above, but for one table some tasks were taken over and others are left.
structure Shift (key : Nat) (pre post : List Task) (w w' : Application) : Prop where
  here : ∀ tasks, Path key (w.strand (pre ++ tasks) key) (w'.strand (post ++ tasks) key)
  elsewhere : ∀ k, k ≠ key → ∀ tasks, Path k (w.strand tasks k) (w'.strand tasks k)
  grows : Grows w w'

def unanswered (w : Application) : List OpenDialog × List OpenQuestion := (w.dialogs, w.questions)

def beside (w : Application) :
    (List OpenDialog × List OpenQuestion) × List Mutation × BusyIndicator Nat × List BusyEvent :=
  (w.unanswered, w.mutations, w.indicator, w.told)

theorem Grows.same {w w' : Application} (same : w'.beside = w.beside) : Grows w w' := by
  simp only [beside, unanswered, Prod.mk.injEq] at same
  obtain ⟨⟨dialogs, questions⟩, mutations, indicator, told⟩ := same
  refine ⟨dialogs ▸ List.prefix_rfl, questions ▸ List.prefix_rfl, fun m x found => ?_, [], indicator, ?_⟩
  · refine ⟨x.done, ?_, id⟩
    unfold mutation? at found ⊢
    rw [mutations]
    exact found
  · rw [told]
    exact (List.append_nil _).symm

structure Only (key : Nat) (w w' : Application) : Prop where
  strands : ∀ k, k ≠ key → ∀ tasks, w'.strand tasks k = w.strand tasks k
  beside : w'.beside = w.beside

structure Alike (w w' : Application) : Prop where
  strands : ∀ key tasks, w'.strand tasks key = w.strand tasks key
  beside : w'.beside = w.beside

theorem Alike.unanswered {w w' : Application} (same : Alike w w') : w'.unanswered = w.unanswered :=
  congrArg Prod.fst same.beside

theorem Weaves.refl (w : Application) : Weaves w w := ⟨fun _ _ => .refl, .refl w⟩

theorem Weaves.trans {u v w : Application} (one : Weaves u v) (two : Weaves v w) : Weaves u w :=
  ⟨fun key tasks => (one.paths key tasks).trans (two.paths key tasks), one.grows.trans two.grows⟩

theorem Alike.refl (w : Application) : Alike w w := ⟨fun _ _ => rfl, rfl⟩

theorem Alike.trans {u v w : Application} (one : Alike u v) (two : Alike v w) : Alike u w :=
  ⟨fun key tasks => (two.strands key tasks).trans (one.strands key tasks),
    two.beside.trans one.beside⟩

theorem Weaves.idle {w w' : Application} (same : ∀ key tasks, w'.strand tasks key = w.strand tasks key)
    (grows : Grows w w') : Weaves w w' :=
  ⟨fun key tasks => by rw [same key tasks], grows⟩

theorem Alike.weaves {w w' : Application} (same : Alike w w') : Weaves w w' :=
  .idle same.strands (.same same.beside)

theorem Weaves.shift {w w' : Application} (woven : Weaves w w') (key : Nat) (tasks : List Task) :
    Shift key tasks tasks w w' :=
  ⟨fun rest => woven.paths key (tasks ++ rest), fun k _ => woven.paths k, woven.grows⟩

theorem Shift.trans {key : Nat} {p q r : List Task} {u v w : Application}
    (one : Shift key p q u v) (two : Shift key q r v w) : Shift key p r u w :=
  ⟨fun tasks => (one.here tasks).trans (two.here tasks),
    fun k other tasks => (one.elsewhere k other tasks).trans (two.elsewhere k other tasks),
    one.grows.trans two.grows⟩

theorem Shift.then {key : Nat} {p q : List Task} {u v w : Application}
    (one : Shift key p q u v) (two : Weaves v w) : Shift key p q u w := one.trans (two.shift key q)

theorem Shift.above {key : Nat} {p q : List Task} {w w' : Application} (shift : Shift key p q w w')
    (below : List Task) : Shift key (p ++ below) (q ++ below) w w' := by
  refine ⟨fun tasks => ?_, shift.elsewhere, shift.grows⟩
  simpa only [List.append_assoc] using shift.here (below ++ tasks)

theorem Shift.weaves (key : Nat) {w w' : Application} (shift : Shift key [] [] w w') :
    Weaves w w' := by
  refine ⟨fun k tasks => ?_, shift.grows⟩
  by_cases same : k = key
  · subst same; exact shift.here tasks
  · exact shift.elsewhere k same tasks

theorem Shift.stride {key : Nat} {p q : List Task} {w w' : Application}
    (here : ∀ tasks, Move key (w.strand (p ++ tasks) key) (w'.strand (q ++ tasks) key))
    (others : ∀ k, k ≠ key → ∀ tasks, w'.strand tasks k = w.strand tasks k) (grows : Grows w w') :
    Shift key p q w w' :=
  ⟨fun tasks => .single (here tasks), fun k other tasks => by rw [others k other tasks], grows⟩

theorem Shift.move {key : Nat} {p q : List Task} {w w' : Application}
    (here : ∀ tasks, Move key (w.strand (p ++ tasks) key) (w'.strand (q ++ tasks) key))
    (only : Only key w w') : Shift key p q w w' :=
  .stride here only.strands (.same only.beside)

theorem Only.alike {key : Nat} {u v w : Application} (one : Only key w u) (two : Only key w v)
    (here : ∀ tasks, v.strand tasks key = u.strand tasks key) : Alike u v := by
  refine ⟨fun k tasks => ?_, two.beside.trans one.beside.symm⟩
  by_cases same : k = key
  · subst same; exact here tasks
  · rw [one.strands k same, two.strands k same]

theorem Only.refl (key : Nat) (w : Application) : Only key w w := ⟨fun _ _ _ => rfl, rfl⟩

theorem Only.trans {key : Nat} {u v w : Application} (one : Only key u v) (two : Only key v w) :
    Only key u w :=
  ⟨fun k other tasks => (two.strands k other tasks).trans (one.strands k other tasks),
    two.beside.trans one.beside⟩

section Primitives

variable {key : Nat} {w : Application} {tasks : List Task}

@[simp] theorem table_record (e : Event) : (w.record e).table key = w.table key := rfl

@[simp] theorem table_sight (occasion : Occasion) :
    (w.sight key occasion).table key = w.table key := rfl

theorem table_modifyTable (f : Table → Table) : (w.modifyTable key f).table key = f (w.table key) := by
  simp [modifyTable, setTable, table, Entries.get?_put_same]

theorem table_modifyTable_other {k : Nat} (other : k ≠ key) (f : Table → Table) :
    (w.modifyTable key f).table k = w.table k := by
  simp [modifyTable, setTable, table, Entries.get?_put_other other]

theorem strand_modifyTable (f : Table → Table) :
    (w.modifyTable key f).strand tasks key = (w.strand tasks key).withTable f := by
  simp only [strand, withTable, table_modifyTable]
  rfl

theorem only_modifyTable (f : Table → Table) : Only key w (w.modifyTable key f) := by
  refine ⟨fun k other tasks => ?_, rfl⟩
  simp only [strand, table_modifyTable_other other]
  rfl

theorem strand_record {e : Event} (own : e.key? = some key) :
    (w.record e).strand tasks key = (w.strand tasks key).note e := by
  simp [strand, Strand.note, record, own]
  exact ⟨rfl, rfl⟩

theorem told_record {e : Event} (other : e.shared? = none) : (w.record e).told = w.told := by
  simp [told, record, other]

theorem beside_record {e : Event} (other : e.shared? = none) : (w.record e).beside = w.beside := by
  unfold beside
  rw [told_record other]
  rfl

theorem only_record {e : Event} (own : e.key? = some key) : Only key w (w.record e) := by
  refine ⟨fun k other tasks => ?_, beside_record (Event.unshared own)⟩
  have foreign : ¬ e.key? = some k := by
    intro same
    exact other (Option.some.inj (same.symm.trans own))
  simp [strand, record, foreign]
  exact ⟨rfl, rfl⟩

theorem strand_record_shared {e : Event} (shared : e.key? = none) :
    (w.record e).strand tasks key = w.strand tasks key := by
  simp [strand, record, shared]
  exact ⟨rfl, rfl⟩

theorem record_alike {e : Event} (shared : e.key? = none) (other : e.shared? = none) :
    Alike w (w.record e) :=
  ⟨fun _ _ => strand_record_shared shared, beside_record other⟩

theorem recordAll_eq (events : List Event) (w : Application) :
    w.recordAll events = { w with journal := events.reverse ++ w.journal } := by
  unfold recordAll
  induction events generalizing w with
  | nil => rfl
  | cons e rest ih =>
    rw [List.foldl_cons, ih]
    simp [record]

theorem strand_recordAll (events : List Event) (shared : ∀ e ∈ events, e.key? = none) :
    (w.recordAll events).strand tasks key = w.strand tasks key := by
  have none : events.reverse.filter (fun e => e.key? = some key) = [] := by
    refine List.filter_eq_nil_iff.mpr fun e member => ?_
    simp [shared e (List.mem_reverse.mp member)]
  rw [recordAll_eq]
  simp only [strand, List.filter_append, none, List.nil_append]
  rfl

theorem told_recordAll (events : List Event) :
    (w.recordAll events).told = w.told ++ events.filterMap Event.shared? := by
  rw [recordAll_eq]
  simp [told, List.filterMap_append, List.filterMap_reverse]

theorem notices_alike (ns : List Notice) : Alike w (w.notices ns) := by
  have silent : (ns.map Event.notice).filterMap Event.shared? = [] := by
    simp [List.filterMap_map, Function.comp_def, Event.shared?]
  refine ⟨fun key tasks => strand_recordAll _ fun e member => ?_, ?_⟩
  · obtain ⟨n, -, rfl⟩ := List.mem_map.mp member
    rfl
  · unfold notices beside
    rw [told_recordAll, silent, List.append_nil, recordAll_eq]
    rfl

theorem calls_notices (ns : List Notice) : (w.notices ns).calls = w.calls := by
  unfold notices recordAll
  induction ns generalizing w with
  | nil => rfl
  | cons n rest ih => exact ih (w := w.record (.notice n))

theorem strand_sight (occasion : Occasion) :
    (w.sight key occasion).strand tasks key = (w.strand tasks key).sight key occasion := by
  have marked : (w.strand tasks key).marks = w.marks key := marks_strand tasks w key
  simp only [Strand.sight, marked]
  simp [strand, sight]
  exact ⟨rfl, rfl⟩

theorem only_sight (occasion : Occasion) : Only key w (w.sight key occasion) := by
  refine ⟨fun k other tasks => ?_, rfl⟩
  have foreign : key ≠ k := Ne.symm other
  simp [strand, sight, foreign]
  exact ⟨rfl, rfl⟩

theorem holds_turned (b : BusyIndicator Nat) (key : Nat) (busy : Bool) :
    (if busy then b.acquire key else b.release key).1.holds key = busy := by
  cases busy <;> simp only [Bool.false_eq_true, if_true, if_false, BusyIndicator.acquire,
    BusyIndicator.release] <;> split <;> simp_all [BusyIndicator.holds]

theorem holds_turned_other {k : Nat} (b : BusyIndicator Nat) (other : k ≠ key) (busy : Bool) :
    (if busy then b.acquire key else b.release key).1.holds k = b.holds k := by
  cases busy <;> simp only [Bool.false_eq_true, if_true, if_false, BusyIndicator.acquire,
    BusyIndicator.release] <;> split <;> simp_all [BusyIndicator.holds]

theorem shareBusy_grows (key : Nat) (busy : Bool) (w : Application) : Grows w (w.shareBusy key busy) := by
  let step : BusyStep Nat := if busy then .acquire key else .release key
  have performed : w.indicator.perform step =
      if busy then w.indicator.acquire key else w.indicator.release key := by
    cases busy <;> rfl
  have alone : w.indicator.run [step] = w.indicator.perform step := by simp [BusyIndicator.run]
  have shared : (w.shareBusy key busy).told = w.told ++ (w.indicator.run [step]).2 := by
    unfold shareBusy
    rw [told_recordAll, alone, performed]
    simp [List.filterMap_map, Function.comp_def, Event.shared?]
    rfl
  have same := recordAll_eq
    ((w.indicator.perform step).2.map fun e => .shared e (w.indicator.perform step).1.count)
    { w with indicator := (w.indicator.perform step).1 }
  rw [performed] at same
  change w.shareBusy key busy = _ at same
  have dialogs : (w.shareBusy key busy).dialogs = w.dialogs := by rw [same]
  have questions : (w.shareBusy key busy).questions = w.questions := by rw [same]
  refine ⟨dialogs ▸ List.prefix_rfl, questions ▸ List.prefix_rfl, ?_, [step], ?_, shared⟩
  · rw [same]
    exact .refl w
  · rw [same, alone, performed]

theorem strand_shareBusy_eq (k : Nat) (busy : Bool) : (w.shareBusy key busy).strand tasks k =
    { w.strand tasks k with
      holds := (if busy then w.indicator.acquire key else w.indicator.release key).1.holds k } := by
  unfold shareBusy
  rw [strand_recordAll]
  · rfl
  · intro e member
    obtain ⟨b, -, rfl⟩ := List.mem_map.mp member
    rfl

theorem strand_shareBusy (busy : Bool) :
    (w.shareBusy key busy).strand tasks key = { w.strand tasks key with holds := busy } := by
  rw [strand_shareBusy_eq, holds_turned]

theorem strand_shareBusy_other {k : Nat} (other : k ≠ key) (busy : Bool) :
    (w.shareBusy key busy).strand tasks k = w.strand tasks k := by
  rw [strand_shareBusy_eq, holds_turned_other _ other]
  rfl

theorem quiet_weaves {e : Event} (own : e.key? = some key) (quiet : e.isQuiet = true)
    (exports : e.Exports (w.view key)) : Weaves w (w.record e) := by
  apply Shift.weaves key
  refine .move (fun tasks => ?_) (only_record own)
  rw [strand_record own]
  exact .note own quiet exports

theorem sight_weaves {o : Occasion} (quiet : o.isQuiet = true) : Weaves w (w.sight key o) := by
  apply Shift.weaves key
  refine .move (fun tasks => ?_) (only_sight o)
  rw [strand_sight]
  exact .look o quiet

theorem view_modifyView (f : TableView → TableView) : (w.modifyView key f).view key = f (w.view key) := by
  simp only [view, modifyView, table_modifyTable]

theorem strand_modifyView (f : TableView → TableView) :
    (w.modifyView key f).strand tasks key = (w.strand tasks key).withView (f (w.view key)) :=
  strand_modifyTable _

theorem only_modifyView (f : TableView → TableView) : Only key w (w.modifyView key f) :=
  only_modifyTable _

theorem view_weaves {f : TableView → TableView} (change : (w.view key).Change (f (w.view key))) :
    Weaves w (w.modifyView key f) := by
  apply Shift.weaves key
  refine .move (fun tasks => ?_) (only_modifyView f)
  rw [strand_modifyView]
  exact .view change

end Primitives

-- An operation that leaves no task behind, whatever its outcome.
def Keeps {α : Type} (a : Act Application α) : Prop := ∀ w, Weaves w (a.after w)

section Composition

variable {α β : Type} {a : Act Application α}

theorem keeps_pure (x : α) : Keeps (pure x : Act Application α) := .refl

theorem keeps_throw (e : Fault) : Keeps (throw e : Act Application α) := .refl

theorem keeps_get : Keeps (get : Act Application Application) := .refl

theorem keeps_result (r : Except Fault α) : Keeps (Act.result r) := .refl

theorem keeps_change {f : Application → Application} (woven : ∀ w, Weaves w (f w)) :
    Keeps (Act.change f) := woven

theorem keeps_update {f : Application → Application × Except Fault α}
    (woven : ∀ w, Weaves w (f w).1) : Keeps (Act.update f) := woven

theorem keeps_bind {f : α → Act Application β} (first : Keeps a) (second : ∀ x, Keeps (f x)) :
    Keeps (a >>= f) := fun w => Act.after_bind_leads Weaves Weaves.trans (first w) second

theorem keeps_get_bind {f : Application → Act Application β}
    (second : ∀ w, Weaves w ((f w).after w)) : Keeps (get >>= f) := by
  intro w
  rw [Act.after_bind]
  exact second w

theorem outcome_onView (key : Nat) (f : TableView → TableView × Except Fault α) (w : Application) :
    (onView key f).outcome w = ((f (w.view key)).2, w.modifyView key fun _ => (f (w.view key)).1) := rfl

theorem after_onView_bind (key : Nat) (f : TableView → TableView × Except Fault α)
    (g : α → Act Application β) (w : Application) :
    (onView key f >>= g).after w =
      match (f (w.view key)).2 with
      | .ok x => (g x).after (w.modifyView key fun _ => (f (w.view key)).1)
      | .error _ => w.modifyView key fun _ => (f (w.view key)).1 := by
  rw [Act.after_bind, outcome_onView]
  cases (f (w.view key)).2 <;> rfl

theorem keeps_onView {key : Nat} {f : TableView → TableView × Except Fault α}
    (change : ∀ v : TableView, v.Change (f v).1) : Keeps (onView key f) :=
  fun w => view_weaves (f := fun _ => (f (w.view key)).1) (change (w.view key))

theorem report_outcome (fault : Fault) (phrase text : Option String) (w : Application) :
    ∃ r ns, (report fault phrase text).outcome w = (r, w.notices ns) := ⟨_, _, rfl⟩

theorem report_keeps (fault : Fault) (phrase text : Option String) : Keeps (report fault phrase text) :=
  keeps_update fun w => (notices_alike (w.workspace.handleFailure fault phrase text []).1).weaves

end Composition

variable {run : Run}

-- The scripts that are reached on the way leave no task behind either.
def Scripts (run : Run) : Prop := ∀ s, Keeps (run s)

section Calls

variable (scripts : Scripts run) {key : Nat}

include scripts

theorem follow_weaves (steps : List Step) (w : Application) : Weaves w (follow run steps w) := by
  induction steps generalizing w with
  | nil => exact .refl w
  | cons step rest ih =>
    have first : Weaves w ((run step).after w) := scripts step w
    exact (first.trans (record_alike rfl rfl).weaves).trans (ih _)

theorem slots_weave (slots : List Slot) (w : Application) :
    Weaves w (slots.foldl (fun w s => follow run s.steps w) w) := by
  induction slots generalizing w with
  | nil => exact .refl w
  | cons slot rest ih => exact (follow_weaves scripts slot.steps w).trans (ih _)

theorem emit_seen (signal : Signal) (w : Application) :
    Weaves ((w.record (.signal key signal)).sight key (.emitted signal)) (emit run key signal w) := by
  unfold emit
  have unplugged (w : Application) : Weaves w (w.unplug key signal.name) :=
    Alike.weaves ⟨fun _ _ => rfl, rfl⟩
  refine Weaves.trans ?_ (slots_weave scripts _ _)
  refine Weaves.trans ?_ (unplugged _)
  split
  · exact quiet_weaves rfl rfl trivial
  · exact .refl _

theorem emit_weaves (key : Nat) (s : Signal) (quiet : (Event.signal key s).isQuiet = true) (w : Application) :
    Weaves w (emit run key s w) := by
  have recorded : Weaves w (w.record (.signal key s)) := quiet_weaves rfl quiet trivial
  have silent : (Occasion.emitted s).isQuiet = true := by
    cases s <;> first | rfl | cases quiet
  exact (recorded.trans (sight_weaves silent)).trans (emit_seen scripts s w)

theorem notify_keeps (c : Callback Step) (r : Nat) : Keeps (notify run key c r) := by
  have calling : Keeps (do
      Act.change (sight key (.called r))
      Act.change (follow run c.steps)
      if c.fails then throw callbackFault : Act Application Unit) := by
    refine keeps_bind (keeps_change fun w => sight_weaves rfl) fun _ => ?_
    refine keeps_bind (keeps_change (follow_weaves scripts c.steps)) fun _ => ?_
    split
    · exact keeps_throw _
    · exact keeps_pure _
  unfold notify
  refine keeps_bind keeps_get fun w => ?_
  dsimp only
  split
  · exact keeps_bind (keeps_change fun w => (record_alike rfl rfl).weaves) fun _ => calling
  · exact calling

theorem callAll_weaves (r : Nat) (cs : List (Callback Step)) (w : Application) :
    Weaves w ((host run key).callAll r cs w) := by
  induction cs generalizing w with
  | nil => exact .refl w
  | cons c rest ih => exact (notify_keeps scripts c r w).trans (ih _)

end Calls

section Requests

variable {key : Nat}

def modifyBook (key : Nat) (f : TableBook → TableBook) (w : Application) : Application :=
  w.modifyTable key fun t => { t with book := f t.book }

theorem host_read (w : Application) : (host run key).read w = (w.table key).book := rfl

theorem host_change (f : TableBook → TableBook) (w : Application) :
    (host run key).change f w = w.modifyBook key f := rfl

theorem table_modifyBook (f : TableBook → TableBook) (w : Application) :
    (w.modifyBook key f).table key = { w.table key with book := f (w.table key).book } :=
  table_modifyTable _

theorem strand_modifyBook (f : TableBook → TableBook) (w : Application) (tasks : List Task) :
    (w.modifyBook key f).strand tasks key = (w.strand tasks key).withBook f := strand_modifyTable _

theorem only_modifyBook (f : TableBook → TableBook) (w : Application) :
    Only key w (w.modifyBook key f) := only_modifyTable _

variable (scripts : Scripts run)

include scripts

theorem finish_shift (r : Nat) (status : RequestStatus)
    {f : Request (Callback Step) Bool → Request (Callback Step) Bool}
    (same : ∀ q, (f q).token = q.token) (w : Application) :
    Shift key [.holding r] [] w ((host run key).finish r status f w) := by
  have abandoned : Shift key [.holding r] [] w w := .move (fun _ => .abandon rfl) (.refl key w)
  unfold Host.finish
  rw [host_read]
  split
  · exact abandoned
  · rename_i q found
    split
    · exact abandoned
    · refine Shift.then ?_ (callAll_weaves scripts r q.callbacks _)
      rw [host_change]
      refine .move (fun tasks => ?_) (only_modifyBook _ w)
      rw [strand_modifyBook]
      exact .settle rfl status f same

theorem discard_shift (r : Nat) (w : Application) :
    Shift key [.holding r] [] w ((host run key).discard r w) :=
  finish_shift scripts r .stale (fun _ => rfl) w

theorem resolve_shift (r : Nat) (page : Page) (w : Application) :
    Shift key [.holding r] [] w ((host run key).resolve r page w) :=
  finish_shift (f := fun q => { q with page := some page }) scripts r .done (fun _ => rfl) w

theorem fail_shift (r : Nat) (e : Fault) (w : Application) :
    Shift key [.holding r] [] w ((host run key).fail r e w) :=
  finish_shift (f := fun q => { q with error := some e }) scripts r .failed (fun _ => rfl) w

theorem discardEach_shift (key : Nat) (rs : List Nat) (w : Application) :
    Shift key (rs.map .holding) [] w ((host run key).discardEach rs w) := by
  induction rs generalizing w with
  | nil => exact (Weaves.refl w).shift key []
  | cons r rest ih =>
    exact ((discard_shift scripts r w).above (rest.map .holding)).trans (ih _)

end Requests

end Application

end PagedTable
