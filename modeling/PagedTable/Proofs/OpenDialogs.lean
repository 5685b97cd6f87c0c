import Mathlib.Data.List.Nodup
import Mathlib.Data.List.Infix
import PagedTable.Dialog.Mediator
import PagedTable.Proofs.Entries
import PagedTable.Proofs.Outcomes

namespace PagedTable

-- What a closing means: a dialog that was accepted has its result, if it is one that has a result; a
-- question was answered with yes or was not.
inductive DialogKind.Answers : DialogKind → Int → Value → Prop where
  | accepted (v : Value) : Answers (.form (some v)) 1 v
  | confirmed : Answers (.form none) 1 (.bool true)
  | rejected (result : Option Value) {code : Int} (other : code ≠ 1) : Answers (.form result) code .null
  | agreed : Answers .question 16384 (.text "YES")
  | declined {code : Int} (other : code ≠ 16384) : Answers .question code (.text "NO")

namespace Mediator

def opens? (s : DialogMark) : Option Nat :=
  match s.event with
  | .opened n _ => some n
  | _ => none

def closes? (s : DialogMark) : Option Nat :=
  match s.event with
  | .closed n _ => some n
  | _ => none

def openings (past : List DialogMark) : List Nat := (past.filterMap opens?).reverse

def closings (past : List DialogMark) : List Nat := past.filterMap closes?

def stillOpen (past : List DialogMark) : List Nat := (openings past).filter fun n => n ∉ closings past

def Opened (past : List DialogMark) (n : Nat) (d : OpenedDialog) : Prop :=
  ∃ shown, ⟨.opened n d, shown⟩ ∈ past

-- What a history tells. At each time those were open that had been opened and not closed; no dialog is
-- opened twice; as soon as one is closed, and is open no more, the callback is called that it was opened
-- with; and nothing else calls one.
structure Accounted (history : List DialogMark) : Prop where
  always : ∀ s past, s :: past <:+ history → s.shown = stillOpen (s :: past)
  distinct : (openings history).Nodup
  answered : ∀ n code shown past, ⟨.closed n code, shown⟩ :: past <:+ history →
    n ∉ shown ∧ ∃ d v, Opened past n d ∧ d.kind.Answers code v ∧
      ⟨.called n d.script v, shown⟩ :: ⟨.closed n code, shown⟩ :: past <:+ history
  caused : ∀ n script v shown past, ⟨.called n script v, shown⟩ :: past <:+ history →
    ∃ code earlier, past = ⟨.closed n code, shown⟩ :: earlier

variable {m u : Mediator} {n : Nat} {d : OpenedDialog} {past : List DialogMark} {code : Int} {v : Value}

theorem outcome_answers (kind : DialogKind) (code : Int) : kind.Answers code (outcome kind code) := by
  cases kind with
  | form result =>
    by_cases accepted : code = 1
    · rw [outcome, acceptedCode, if_pos accepted, accepted]
      cases result with
      | none => exact .confirmed
      | some v => exact .accepted v
    · rw [outcome, acceptedCode, if_neg accepted]
      exact .rejected result accepted
  | question =>
    by_cases yes : code = 16384
    · rw [outcome, yesCode, if_pos yes, yes]
      exact .agreed
    · rw [outcome, yesCode, if_neg yes]
      exact .declined yes

section Histories

variable {shown : List Nat}

theorem mem_openings : n ∈ openings past ↔ ∃ d, Opened past n d := by
  unfold openings
  rw [List.mem_reverse, List.mem_filterMap]
  constructor
  · rintro ⟨⟨event, shown⟩, member, opens⟩
    cases event <;> cases opens
    exact ⟨_, shown, member⟩
  · rintro ⟨d, shown, member⟩
    exact ⟨_, member, rfl⟩

theorem mem_closings : n ∈ closings past ↔ ∃ code shown, ⟨.closed n code, shown⟩ ∈ past := by
  unfold closings
  rw [List.mem_filterMap]
  constructor
  · rintro ⟨⟨event, shown⟩, member, closes⟩
    cases event <;> cases closes
    exact ⟨_, shown, member⟩
  · rintro ⟨code, shown, member⟩
    exact ⟨_, member, rfl⟩

theorem openings_opened : openings (⟨.opened n d, shown⟩ :: past) = openings past ++ [n] :=
  List.reverse_cons

theorem stillOpen_opened (unclosed : n ∉ closings past) :
    stillOpen (⟨.opened n d, shown⟩ :: past) = stillOpen past ++ [n] := by
  have closed : closings (⟨.opened n d, shown⟩ :: past) = closings past := rfl
  rw [stillOpen, openings_opened, closed, List.filter_append, List.filter_singleton]
  simp [stillOpen, unclosed]

theorem stillOpen_closed : stillOpen (⟨.closed n code, shown⟩ :: past) = (stillOpen past).filter (· ≠ n) := by
  have closed : closings (⟨.closed n code, shown⟩ :: past) = n :: closings past := rfl
  have opened : openings (⟨.closed n code, shown⟩ :: past) = openings past := rfl
  rw [stillOpen, stillOpen, opened, closed, List.filter_filter]
  refine List.filter_congr fun k _ => ?_
  simp [not_or]

theorem Opened.cons (opened : Opened past n d) (s : DialogMark) : Opened (s :: past) n d := by
  obtain ⟨shown, member⟩ := opened
  exact ⟨shown, List.mem_cons_of_mem s member⟩

theorem opened_cons {k : Nat} {e : OpenedDialog} :
    Opened (⟨.opened n d, shown⟩ :: past) k e ↔ k = n ∧ e = d ∨ Opened past k e := by
  constructor
  · rintro ⟨shown, member⟩
    rcases List.mem_cons.mp member with same | earlier
    · cases same
      exact .inl ⟨rfl, rfl⟩
    · exact .inr ⟨shown, earlier⟩
  · rintro (⟨rfl, rfl⟩ | opened)
    · exact ⟨shown, List.mem_cons_self⟩
    · exact opened.cons _

theorem opened_told {k : Nat} {e : OpenedDialog} {script : List MediatorStep} :
    Opened (⟨.called n script v, shown⟩ :: ⟨.closed n code, shown⟩ :: past) k e ↔ Opened past k e := by
  constructor
  · rintro ⟨when, member⟩
    rcases List.mem_cons.mp member with same | member
    · cases same
    · rcases List.mem_cons.mp member with same | earlier
      · cases same
      · exact ⟨when, earlier⟩
  · exact fun opened => (opened.cons _).cons _

theorem Accounted.closings_opened (accounted : Accounted past) (closed : n ∈ closings past) :
    n ∈ openings past := by
  obtain ⟨code, shown, member⟩ := mem_closings.mp closed
  obtain ⟨later, earlier, rfl⟩ := List.append_of_mem member
  obtain ⟨-, d, v, ⟨when, opened⟩, -⟩ := accounted.answered n code shown earlier (List.suffix_append later _)
  exact mem_openings.mpr ⟨d, when, List.mem_append_right _ (List.mem_cons_of_mem _ opened)⟩

theorem Accounted.nil : Accounted [] where
  always s past suffix := by cases List.suffix_nil.mp suffix
  distinct := List.nodup_nil
  answered n code shown past suffix := by cases List.suffix_nil.mp suffix
  caused k script v shown past suffix := by cases List.suffix_nil.mp suffix

theorem Accounted.opened (accounted : Accounted past) (new : n ∉ openings past) (d : OpenedDialog) :
    Accounted (⟨.opened n d, stillOpen past ++ [n]⟩ :: past) where
  always s earlier suffix := by
    rcases List.suffix_cons_iff.mp suffix with same | before
    · cases same
      exact (stillOpen_opened fun closed => new (accounted.closings_opened closed)).symm
    · exact accounted.always s earlier before
  distinct := by
    rw [openings_opened]
    exact List.nodup_append.mpr ⟨accounted.distinct, List.nodup_singleton n, by
      intro k member l last
      rw [List.mem_singleton.mp last]
      exact fun same => new (same ▸ member)⟩
  answered k code shown earlier suffix := by
    rcases List.suffix_cons_iff.mp suffix with same | before
    · cases same
    · obtain ⟨gone, d, v, opened, answers, called⟩ := accounted.answered k code shown earlier before
      exact ⟨gone, d, v, opened, answers, called.trans (List.suffix_cons _ _)⟩
  caused k script v shown earlier suffix := by
    rcases List.suffix_cons_iff.mp suffix with same | before
    · cases same
    · exact accounted.caused k script v shown earlier before

theorem suffix_two {l : List DialogMark} {s t : DialogMark} (suffix : l <:+ s :: t :: past) :
    l = s :: t :: past ∨ l = t :: past ∨ l <:+ past := by
  rwa [List.suffix_cons_iff, List.suffix_cons_iff] at suffix

-- The dialog is taken out of those that are open before its callback is called.
theorem Accounted.closed (accounted : Accounted past) (opened : Opened past n d)
    (answers : d.kind.Answers code v) (left : shown = (stillOpen past).erase n) :
    Accounted (⟨.called n d.script v, shown⟩ :: ⟨.closed n code, shown⟩ :: past) := by
  have remaining : shown = (stillOpen past).filter (· ≠ n) := by
    have distinct : (stillOpen past).Nodup := accounted.distinct.filter _
    rw [left, distinct.erase_eq_filter]
    exact List.filter_congr fun k _ => by rw [bne, beq_eq_decide, decide_not]
  have still : shown = stillOpen (⟨.closed n code, shown⟩ :: past) := remaining.trans stillOpen_closed.symm
  refine ⟨fun s earlier suffix => ?_, accounted.distinct, fun k code' shown' earlier suffix => ?_,
    fun k script v' shown' earlier suffix => ?_⟩
  · rcases suffix_two suffix with same | same | before
    · cases same
      exact still
    · cases same
      exact still
    · exact accounted.always s earlier before
  · rcases suffix_two suffix with same | same | before
    · cases same
    · cases same
      exact ⟨by simp [remaining], d, v, opened, answers, List.suffix_rfl⟩
    · obtain ⟨gone, d', v', opened', answers', called⟩ := accounted.answered k code' shown' earlier before
      refine ⟨gone, d', v', opened', answers', called.trans ?_⟩
      exact (List.suffix_cons _ past).trans (List.suffix_cons _ _)
  · rcases suffix_two suffix with same | same | before
    · cases same
      exact ⟨code, past, rfl⟩
    · cases same
    · exact accounted.caused k script v' shown' earlier before

end Histories

structure Kept (m : Mediator) : Prop where
  accounted : Accounted m.history
  now : m.shown = stillOpen m.history
  known : ∀ n d, (n, d) ∈ m.opened ↔ Opened m.history n d
  numbered : ∀ e ∈ m.opened, e.1 < m.made

theorem Kept.same (kept : m.Kept) (shown : u.shown = m.shown) (opened : u.opened = m.opened)
    (history : u.history = m.history) (made : m.made ≤ u.made) : u.Kept where
  accounted := by rw [history]; exact kept.accounted
  now := by rw [shown, history]; exact kept.now
  known := by rw [opened, history]; exact kept.known
  numbered := by
    rw [opened]
    exact fun e member => Nat.lt_of_lt_of_le (kept.numbered e member) made

theorem Kept.presented (kept : m.Kept) (new : ∀ e ∈ m.opened, e.1 < n) (made : n < m.made)
    (d : OpenedDialog) : (m.present n d).Kept := by
  have absent : n ∉ openings m.history := by
    intro member
    obtain ⟨d, opened⟩ := mem_openings.mp member
    exact Nat.lt_irrefl n (new _ ((kept.known n d).mpr opened))
  have accounted : Accounted (m.present n d).history := by
    change Accounted (⟨.opened n d, m.shown ++ [n]⟩ :: m.history)
    rw [kept.now]
    exact kept.accounted.opened absent d
  refine ⟨accounted, accounted.always _ _ List.suffix_rfl, fun k e => ?_, fun e member => ?_⟩
  · change (k, e) ∈ m.opened ++ [(n, d)] ↔ Opened (⟨.opened n d, m.shown ++ [n]⟩ :: m.history) k e
    rw [opened_cons, List.mem_append, List.mem_singleton, Prod.mk.injEq, kept.known, or_comm]
  · rcases List.mem_append.mp member with earlier | last
    · exact kept.numbered e earlier
    · rw [List.mem_singleton.mp last]
      exact made

theorem Kept.told (kept : m.Kept) (found : Entries.get? n m.opened = some d) (code : Int) :
    ((m.hide n code).tell n d.script (outcome d.kind code)).Kept := by
  have opened : Opened m.history n d := (kept.known n d).mp (Entries.mem_of_get? found)
  have accounted : Accounted ((m.hide n code).tell n d.script (outcome d.kind code)).history := by
    have gone : m.shown.erase n = (stillOpen m.history).erase n := by rw [kept.now]
    exact kept.accounted.closed opened (outcome_answers d.kind code) gone
  refine ⟨accounted, accounted.always _ _ List.suffix_rfl, fun k e => (kept.known k e).trans ?_, kept.numbered⟩
  exact opened_told.symm

section Steps

variable (m) (run : Run)

theorem foldl_record (events : List WidgetEvent) : ∃ journal,
    events.foldl (fun m e => m.record (.widget e)) m = { m with journal } := by
  induction events generalizing m with
  | nil => exact ⟨m.journal, rfl⟩
  | cons e rest ih => exact ih (m.record (.widget e))

theorem openDialog_sized {size : DialogSize} {events : List WidgetEvent}
    (sizes : sizeEvents m.window size = .ok events) (params : DialogParams) (result : Option Value)
    (script : List MediatorStep) : ∃ journal,
    (step run (.openDialog params size result script)).outcome m =
      (.ok (), ({ m with made := m.made + 1, journal }.present m.made ⟨.form result, script⟩).record
        (.widget .shown)) := by
  obtain ⟨journal, told⟩ := foldl_record (m.record (.component params m.window.isSome)).make events
  refine ⟨journal, ?_⟩
  change (Act.result (sizeEvents m.window size) >>= _).outcome _ = _
  rw [sizes, Act.outcome_bind_ok (Act.outcome_result _ _), Act.outcome_change_bind, told]
  rfl

theorem openDialog_unsized {size : DialogSize} {e : Fault} (stops : sizeEvents m.window size = .error e)
    (params : DialogParams) (result : Option Value) (script : List MediatorStep) :
    (step run (.openDialog params size result script)).outcome m =
      (.error e, (m.record (.component params m.window.isSome)).make) := by
  change (Act.result (sizeEvents m.window size) >>= _).outcome _ = _
  rw [stops, Act.outcome_bind]
  rfl

theorem ask_outcome (title message : String) (script : List MediatorStep) :
    (step run (.ask title message script)).outcome m =
      (.ok (), ((m.make.record (.box title message)).present m.made ⟨.question, script⟩).record
        (.widget .shown)) := rfl

theorem finish_absent {dialog : Int} {e : Fault} (missing : position m.made dialog = .error e) (code : Int) :
    (step run (.finish dialog code)).outcome m = (.error e, m) := by
  change (Act.result (position m.made dialog) >>= _).outcome m = _
  rw [missing, Act.outcome_bind]
  rfl

theorem finish_there {dialog : Int} {n : Nat} (there : position m.made dialog = .ok n) (code : Int) :
    (step run (.finish dialog code)).outcome m =
      match Entries.get? n m.opened with
      | none => (.ok (), m)
      | some d => (.ok (), follow run d.script ((m.hide n code).tell n d.script (outcome d.kind code))) := by
  change (Act.result (position m.made dialog) >>= _).outcome m = _
  rw [there, Act.outcome_bind_ok (Act.outcome_result _ _), Act.outcome_get_bind]
  cases Entries.get? n m.opened <;> rfl

end Steps

def Keeps (run : Run) : Prop := ∀ (m : Mediator) (s : MediatorStep), m.Kept → ((run s).after m).Kept

theorem Keeps.follow {run : Run} (keeps : Keeps run) (script : List MediatorStep) (kept : m.Kept) :
    (follow run script m).Kept := by
  induction script generalizing m with
  | nil => exact kept
  | cons s rest ih => exact ih (keeps m s kept)

theorem Keeps.step {run : Run} (keeps : Keeps run) : Keeps (step run) := by
  intro m s kept
  have fresh : ∀ e ∈ m.opened, e.1 < m.made := kept.numbered
  rw [Act.after_eq]
  cases s with
  | openDialog params size result script =>
    cases sizes : sizeEvents m.window size with
    | ok events =>
      obtain ⟨journal, told⟩ := openDialog_sized m run sizes params result script
      have made : Kept { m with made := m.made + 1, journal } := kept.same rfl rfl rfl (Nat.le_succ _)
      rw [told]
      exact (made.presented fresh (Nat.lt_succ_self _) _).same rfl rfl rfl (Nat.le_refl _)
    | error e =>
      rw [openDialog_unsized m run sizes params result script]
      exact kept.same rfl rfl rfl (Nat.le_succ _)
  | ask title message script =>
    have made : (m.make.record (.box title message)).Kept := kept.same rfl rfl rfl (Nat.le_succ _)
    rw [ask_outcome]
    exact (made.presented fresh (Nat.lt_succ_self _) _).same rfl rfl rfl (Nat.le_refl _)
  | finish dialog code =>
    cases there : position m.made dialog with
    | error e =>
      rw [finish_absent m run there]
      exact kept
    | ok n =>
      rw [finish_there m run there]
      cases found : Entries.get? n m.opened with
      | none => exact kept
      | some d => exact keeps.follow d.script (kept.told found code)

theorem runTo_keeps : ∀ depth, Keeps (runTo depth)
  | 0 => fun _ _ kept => kept
  | depth + 1 => (runTo_keeps depth).step

-- Mediators that steps lead to, also where a callback has been called and has done nothing yet.
inductive Reached : Mediator → Prop where
  | made (window : Option Extent) : Reached { window }
  | stepped {m : Mediator} (before : Reached m) (depth : Nat) (step : MediatorStep) :
      Reached ((runTo depth step).after m)
  | called {m : Mediator} {n : Nat} {d : OpenedDialog} (before : Reached m)
      (found : Entries.get? n m.opened = some d) (code : Int) :
      Reached ((m.hide n code).tell n d.script (outcome d.kind code))

theorem Reached.kept (reached : m.Reached) : m.Kept := by
  induction reached with
  | made window => exact ⟨.nil, rfl, fun n d => by simp [Opened], by simp⟩
  | stepped before depth step ih => exact runTo_keeps depth _ step ih
  | called before found code ih => exact ih.told found code

-- What a step comes to, and which moment it goes through. A dialog is opened, under the next number, unless
-- its size cannot be told. The closing of one that was opened is answered to its callback, whose script
-- runs from there on; that of another is heard by nobody.
inductive Does (depth : Nat) (m : Mediator) : MediatorStep → Except Fault Unit × Mediator → Prop where
  | opened {u : Mediator} {params : DialogParams} {size : DialogSize} {result : Option Value}
      {script : List MediatorStep} {events : List WidgetEvent} (sizes : sizeEvents m.window size = .ok events)
      (shown : u.shown = m.shown ++ [m.made])
      (history : u.history = ⟨.opened m.made ⟨.form result, script⟩, u.shown⟩ :: m.history) :
      Does depth m (.openDialog params size result script) (.ok (), u)
  | unsized {u : Mediator} {params : DialogParams} {size : DialogSize} {result : Option Value}
      {script : List MediatorStep} {e : Fault} (stops : sizeEvents m.window size = .error e)
      (shown : u.shown = m.shown) (history : u.history = m.history) :
      Does depth m (.openDialog params size result script) (.error e, u)
  | asked {u : Mediator} {title message : String} {script : List MediatorStep}
      (shown : u.shown = m.shown ++ [m.made])
      (history : u.history = ⟨.opened m.made ⟨.question, script⟩, u.shown⟩ :: m.history) :
      Does depth m (.ask title message script) (.ok (), u)
  | closed {u : Mediator} {dialog code : Int} {n : Nat} {d : OpenedDialog} {v : Value}
      (there : position m.made dialog = .ok n) (opened : Opened m.history n d)
      (answers : d.kind.Answers code v) (reached : u.Reached) (told : u.journal = .result v :: m.journal)
      (history : u.history = ⟨.called n d.script v, u.shown⟩ :: ⟨.closed n code, u.shown⟩ :: m.history) :
      Does depth m (.finish dialog code) (.ok (), follow (runTo depth) d.script u)
  | unheard {dialog code : Int} {n : Nat} (there : position m.made dialog = .ok n)
      (unopened : ∀ d, ¬ Opened m.history n d) : Does depth m (.finish dialog code) (.ok (), m)
  | absent {dialog code : Int} {e : Fault} (missing : position m.made dialog = .error e) :
      Does depth m (.finish dialog code) (.error e, m)

theorem Reached.does (reached : m.Reached) (depth : Nat) (s : MediatorStep) :
    Does depth m s ((runTo (depth + 1) s).outcome m) := by
  have kept := reached.kept
  change Does depth m s ((step (runTo depth) s).outcome m)
  cases s with
  | openDialog params size result script =>
    cases sizes : sizeEvents m.window size with
    | ok events =>
      obtain ⟨journal, told⟩ := openDialog_sized m (runTo depth) sizes params result script
      rw [told]
      exact .opened sizes rfl rfl
    | error e =>
      rw [openDialog_unsized m (runTo depth) sizes params result script]
      exact .unsized sizes rfl rfl
  | ask title message script =>
    rw [ask_outcome]
    exact .asked rfl rfl
  | finish dialog code =>
    cases there : position m.made dialog with
    | error e =>
      rw [finish_absent m (runTo depth) there]
      exact .absent there
    | ok n =>
      rw [finish_there m (runTo depth) there]
      cases found : Entries.get? n m.opened with
      | none =>
        refine .unheard there fun d opened => Entries.get?_eq_none.mp found ?_
        exact List.mem_map_of_mem ((kept.known n d).mpr opened)
      | some d =>
        have opened : Opened m.history n d := (kept.known n d).mp (Entries.mem_of_get? found)
        exact .closed there opened (outcome_answers d.kind code) (.called reached found code) rfl rfl

-- Whatever dialogs were opened and closed, in whatever order and by whatever callbacks: those are open that
-- were opened and have not been closed, in the order of their opening, and so it was at each time before; each
-- closing was answered to the callback of its dialog, once, when the dialog was not open any more; and to
-- whichever step is next it happens likewise.
theorem dialogs_accounted (reached : m.Reached) :
    m.shown = stillOpen m.history ∧ Accounted m.history ∧
      ∀ depth step, Does depth m step ((runTo (depth + 1) step).outcome m) :=
  ⟨reached.kept.now, reached.kept.accounted, reached.does⟩

theorem Reached.played (reached : m.Reached) (depth : Nat) (steps : List MediatorStep) :
    (follow (runTo depth) steps m).Reached := by
  induction steps generalizing m with
  | nil => exact reached
  | cons s rest ih => exact ih (reached.stepped depth s)

-- A question whose callback closes the dialog that was opened before it; the callback of that one opens two
-- more.
def chained : Mediator :=
  follow (runTo 3)
    [.openDialog {} default (some (.text "a")) [.ask "b" "" [], .openDialog {} default none []],
      .ask "c" "" [.finish 0 1], .finish 1 16384]
    { window := some ⟨1000, 800⟩ }

theorem chained_accounted : chained.Reached ∧ chained.shown = [2, 3] ∧ closings chained.history = [0, 1] ∧
    chained.shown = stillOpen chained.history ∧ Accounted chained.history ∧
    Does 1 chained (.finish 2 65536) ((runTo 2 (.finish 2 65536)).outcome chained) := by
  have reached : chained.Reached := (Reached.made _).played 3 _
  obtain ⟨now, accounted, does⟩ := dialogs_accounted reached
  exact ⟨reached, by decide +kernel, by decide +kernel, now, accounted, does 1 _⟩

end Mediator

end PagedTable
