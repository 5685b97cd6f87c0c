import PagedTable.Proofs.RequestQueries

namespace PagedTable

namespace TableView

-- The same filters are in force, and the same page is asked for in the same order.
structure SameRequest (v v' : TableView) : Prop where
  filters : v.filters.SameEffect v'.filters
  sorting : v'.sorting = v.sorting
  paging : v'.paging = v.paging

-- A change that is reported goes to the first page, and nothing changes that is not reported.
structure Reported (v v' : TableView) (outcome : Except Fault Bool) : Prop where
  first : outcome = .ok true → v'.paging.index = 0
  same : outcome ≠ .ok true → v.SameRequest v'

variable {u v v' : TableView} {outcome : Except Fault Bool}

theorem SameRequest.refl (v : TableView) : v.SameRequest v := ⟨.refl _, rfl, rfl⟩

theorem Reported.unchanged (other : outcome ≠ .ok true) : v.Reported v outcome :=
  ⟨fun reported => absurd reported other, fun _ => .refl v⟩

theorem Reported.changed (first : v'.paging.index = 0) : v.Reported v' (.ok true) :=
  ⟨fun _ => first, fun other => absurd rfl other⟩

theorem Reported.described (read : Described v u) (reported : u.Reported v' outcome) :
    v.Reported v' outcome := by
  refine ⟨reported.first, fun other => ?_⟩
  obtain ⟨filters, sorting, paging⟩ := reported.same other
  obtain ⟨before, order, page⟩ := read.asks
  exact ⟨before ▸ filters, sorting.trans order, paging.trans page⟩

theorem setFilter_reported (sound : v.filters.Sound) (id : String) (value : Value) :
    v.Reported (v.setFilter id value).1 (v.setFilter id value).2 := by
  have setting := sound.setting id value
  unfold setFilter
  generalize v.filters.set id value = result at setting ⊢
  cases setting with
  | unknown missing => exact .unchanged nofun
  | refused found unfit => exact .unchanged nofun
  | same found taken same => exact ⟨nofun, fun _ => ⟨.store same, rfl, rfl⟩⟩
  | other found taken other restored => exact .changed rfl

theorem setSearch_reported (sound : v.filters.Sound) (text : Value) :
    v.Reported (v.setSearch text).1 (v.setSearch text).2 := by
  unfold setSearch
  split
  · exact setFilter_reported sound searchFilterId text
  · exact .unchanged (by simp)

theorem resetFilters_reported (sound : v.filters.Sound) :
    v.Reported v.resetFilters.1 v.resetFilters.2 := by
  obtain ⟨filters, changed, done, -, unchanged⟩ := sound.reset
  unfold resetFilters
  rw [done]
  cases changed with
  | true => exact .changed rfl
  | false => exact ⟨nofun, fun _ => ⟨unchanged rfl, rfl, rfl⟩⟩

theorem applySorting_reported (v : TableView) (sorting : Sorting) :
    v.Reported (v.applySorting sorting).1 (v.applySorting sorting).2 := by
  unfold applySorting
  split
  · exact .unchanged nofun
  · exact .changed rfl

theorem setSort_reported (v : TableView) (column : Option String) (direction : Value) :
    v.Reported (v.setSort column direction).1 (v.setSort column direction).2 := by
  obtain ⟨u, read, ⟨outcome, other, passed⟩ | ⟨sorting, applied⟩⟩ := setSort_cases v column direction
  · rw [passed]
    exact .described read (.unchanged other)
  · rw [applied]
    exact .described read (applySorting_reported u sorting)

theorem setPageSize_reported (v : TableView) (size : Number) :
    v.Reported (v.setPageSize size).1 (v.setPageSize size).2 := by
  unfold setPageSize
  split
  · exact .unchanged nofun
  · split
    · exact .unchanged nofun
    · exact .changed rfl

theorem setPage_page (v : TableView) (index : Number) :
    (∃ next, (v.setPage index).1 = { v with paging := { v.paging with index := next } }) ∧
      ∀ e, (v.setPage index).2 = .error e → (v.setPage index).1 = v := by
  unfold setPage
  split
  · exact ⟨⟨v.paging.index, rfl⟩, fun _ _ => rfl⟩
  · split
    · exact ⟨⟨v.paging.index, rfl⟩, fun _ _ => rfl⟩
    · exact ⟨⟨index, rfl⟩, nofun⟩

theorem setFilter_filters (v : TableView) (id : String) (value : Value) :
    (v.setFilter id value).1.filters = (v.filters.set id value).1 := by
  unfold setFilter
  split
  · rename_i result
    rw [result]
    rfl
  · rename_i result
    rw [result]

theorem resetFilters_filters (v : TableView) : v.resetFilters.1.filters = v.filters.reset.1 := by
  unfold resetFilters
  split
  · rename_i result
    rw [result]
    rfl
  · rename_i result
    rw [result]

theorem setSort_filters (v : TableView) (column : Option String) (direction : Value) :
    (v.setSort column direction).1.filters = v.filters := by
  obtain ⟨u, read, ⟨outcome, -, passed⟩ | ⟨sorting, applied⟩⟩ := setSort_cases v column direction
  · rw [passed]
    exact read.asks.1
  · rw [applied, ← read.asks.1]
    unfold applySorting
    split <;> rfl

theorem Change.filters (change : Change v v') : v'.filters = v.filters ∨
    (∃ id value, v'.filters = (v.filters.set id value).1) ∨ v'.filters = v.filters.reset.1 := by
  cases change with
  | described read => exact .inl read.asks.1
  | filter id value => exact .inr (.inl ⟨id, value, setFilter_filters v id value⟩)
  | search text =>
    unfold setSearch
    split
    · exact .inr (.inl ⟨_, text, setFilter_filters v _ text⟩)
    · exact .inl rfl
  | reset => exact .inr (.inr (resetFilters_filters v))
  | sort column direction => exact .inl (setSort_filters v column direction)
  | page index =>
    obtain ⟨next, turned⟩ := (setPage_page v index).1
    rw [turned]
    exact .inl rfl
  | pageSize size =>
    unfold setPageSize
    split
    · exact .inl rfl
    · split <;> exact .inl rfl
  | select ids chosen allowed => exact .inl (selection_described v ids).asks.1
  | clear => exact .inl rfl
  | flag name value entity set => exact .inl rfl

theorem Change.sound (change : Change v v') (sound : v.filters.Sound) : v'.filters.Sound := by
  rcases change.filters with same | ⟨id, value, set⟩ | reset
  · rw [same]
    exact sound
  · rw [set]
    exact sound.set id value
  · obtain ⟨t, changed, done, later, -⟩ := sound.reset
    rw [reset, done]
    exact later

theorem inMode_asks (v : TableView) (mode : TableMode) : (v.inMode mode).filters = v.filters ∧
    (v.inMode mode).sorting = v.sorting ∧ (v.inMode mode).paging = v.paging := by
  have kept := (describe_described { v with mode }).asks
  unfold inMode
  split <;> rename_i read <;> rw [read] at kept
  · split <;> exact kept
  · exact kept

theorem shown_asks (v : TableView) (page : Page) (keep : Bool) : (v.shown page keep).filters = v.filters ∧
    (v.shown page keep).sorting = v.sorting ∧ (v.shown page keep).paging = v.paging := by
  have kept := (surviving_described { v with rows := page.rows, total := page.total } keep page.rows).asks
  unfold shown
  split <;> rename_i read <;> rw [read] at kept
  · split <;> exact kept
  · exact kept

end TableView

namespace Strand

variable {key : Nat} {s s' : Strand}

theorem Move.sound (move : Move key s s') (sound : s.table.view.filters.Sound) :
    s'.table.view.filters.Sound := by
  cases move with
  | opened unused view bare numbered keep unselected faithful declared => exact declared
  | view change => exact change.sound sound
  | turn next other =>
    rw [← (TableView.inMode_asks s.table.view next).1] at sound
    exact sound
  | empty top keep =>
    rw [← (TableView.shown_asks s.table.view Page.empty keep).1] at sound
    exact sound
  | receive answered page keep =>
    rw [← (TableView.shown_asks s.table.view page keep).1] at sound
    exact sound
  | recount top =>
    obtain ⟨busy, holds, events, sights, recounted⟩ := recounted_eq key s
    rw [recounted]
    exact sound
  | _ => exact sound

theorem Path.sound (path : Path key {} s) : s.table.view.filters.Sound := by
  induction path with
  | refl => exact .empty
  | tail _ move ih => exact move.sound ih

end Strand

-- The steps that adjust what is asked for, and what they do to the view.
inductive TableStep.Adjusts : TableStep → (TableView → TableView × Except Fault Bool) → Prop where
  | filter (id : String) (value : Value) : Adjusts (.setFilter id value) fun v => v.setFilter id value
  | search (text : Value) : Adjusts (.setSearch text) fun v => v.setSearch text
  | reset : Adjusts .resetFilters TableView.resetFilters
  | sort (column : Option String) (direction : Value) :
      Adjusts (.setSort column direction) fun v => v.setSort column direction
  | pageSize (size : Number) (remember : Bool) :
      Adjusts (.setPageSize size remember) fun v => v.setPageSize size

theorem TableStep.Adjusts.reported {s : TableStep} {f : TableView → TableView × Except Fault Bool}
    {v : TableView} (adjusts : s.Adjusts f) (sound : v.filters.Sound) : v.Reported (f v).1 (f v).2 := by
  cases adjusts with
  | filter id value => exact TableView.setFilter_reported sound id value
  | search text => exact TableView.setSearch_reported sound text
  | reset => exact TableView.resetFilters_reported sound
  | sort column direction => exact TableView.setSort_reported v column direction
  | pageSize size remember => exact TableView.setPageSize_reported v size

namespace Application
open Strand

structure ChangeReported (w : Application) (key : Nat) (r : Except Fault Answer × Application) : Prop where
  told : (∃ b, r.1 = .ok (.truth b)) ∨ ∃ e, r.1 = .error e
  first : r.1 = .ok (.truth true) → (r.2.view key).paging.index = 0
  same : r.1 ≠ .ok (.truth true) → (w.view key).SameRequest (r.2.view key)

structure PageTurned (w : Application) (key : Nat) (r : Except Fault Answer × Application) : Prop where
  page : ∃ index, r.2.table key = { w.table key with
    view := { w.view key with paging := { (w.view key).paging with index } } }
  others : ∀ k, k ≠ key → r.2.table k = w.table k
  rest : { r.2 with tables := w.tables } = w
  refused : ∀ e, r.1 = .error e → r.2.table key = w.table key

variable {w : Application} {key : Nat}

theorem outcome_changed (f : TableView → TableView × Except Fault Bool) (w : Application) :
    (changed key f).outcome w =
      ((f (w.view key)).2.map flagOf, w.modifyView key fun _ => (f (w.view key)).1) := by
  unfold changed
  rw [Act.outcome_bind, outcome_onView]
  cases (f (w.view key)).2 <;> rfl

theorem outcome_setPageSize (key : Nat) (size : Number) (remember : Bool) (w : Application) :
    ((setPageSize key size remember).outcome w).1 = ((w.view key).setPageSize size).2.map flagOf ∧
      ((setPageSize key size remember).outcome w).2.view key = ((w.view key).setPageSize size).1 := by
  have sized : (w.modifyView key fun _ => ((w.view key).setPageSize size).1).view key =
      ((w.view key).setPageSize size).1 := view_modifyView _
  unfold setPageSize
  rw [Act.outcome_bind, outcome_onView]
  cases ((w.view key).setPageSize size).2 with
  | error e => exact ⟨rfl, sized⟩
  | ok changed =>
    dsimp only
    rw [Act.outcome_get_bind]
    split <;> exact ⟨rfl, sized⟩

theorem adjusted (run : Run) {s : TableStep} {f : TableView → TableView × Except Fault Bool}
    (adjusts : s.Adjusts f) (w : Application) :
    ((performTable run key s).outcome w).1 = (f (w.view key)).2.map flagOf ∧
      ((performTable run key s).outcome w).2.view key = (f (w.view key)).1 := by
  have simple : ((changed key f).outcome w).1 = (f (w.view key)).2.map flagOf ∧
      ((changed key f).outcome w).2.view key = (f (w.view key)).1 := by
    rw [outcome_changed]
    exact ⟨rfl, view_modifyView _⟩
  cases adjusts with
  | pageSize size remember =>
    exact outcome_setPageSize key size remember w
  | _ => exact simple

theorem turned (run : Run) (index : Number) (w : Application) :
    w.PageTurned key ((performTable run key (.setPage index)).outcome w) := by
  have turned : (performTable run key (.setPage index)).outcome w =
      (((w.view key).setPage index).2.map flagOf,
        w.modifyView key fun _ => ((w.view key).setPage index).1) := outcome_changed _ w
  obtain ⟨⟨next, page⟩, refused⟩ := (w.view key).setPage_page index
  rw [turned]
  refine ⟨⟨next, ?_⟩, fun k other => table_modifyTable_other other _, rfl, fun e raised => ?_⟩
  · rw [← page]
    exact table_modifyTable _
  · have error : ((w.view key).setPage index).2 = .error e := by
      cases outcome : ((w.view key).setPage index).2 with
      | error e =>
        rw [outcome] at raised
        cases raised
        rfl
      | ok changed =>
        rw [outcome] at raised
        cases raised
    rw [refused e error]
    exact table_modifyTable _

-- Whatever is under way, adjusting a table reports what it does, and going to another page does no more.
theorem changes_reported (arises : w.Arises key) (run : Run) :
    (∀ s f, s.Adjusts f → w.ChangeReported key ((performTable run key s).outcome w)) ∧
      ∀ index, w.PageTurned key ((performTable run key (.setPage index)).outcome w) := by
  obtain ⟨tasks, path⟩ := arises
  have sound : (w.view key).filters.Sound := Path.sound path
  refine ⟨fun s f adjusts => ?_, fun index => turned run index w⟩
  obtain ⟨told, view⟩ := adjusted run adjusts w
  have reported := adjusts.reported sound
  rw [← view] at reported
  cases outcome : (f (w.view key)).2 with
  | error e =>
    rw [outcome] at told reported
    refine ⟨.inr ⟨e, told⟩, fun done => ?_, fun _ => reported.same nofun⟩
    rw [told] at done
    cases done
  | ok b =>
    rw [outcome] at told reported
    refine ⟨.inl ⟨b, told⟩, fun done => reported.first ?_, fun other => reported.same ?_⟩
    · rw [told] at done
      cases done
      rfl
    · rintro ⟨⟩
      exact other told

def thirdPage : Application :=
  (opened { plan := { filters := .ok [{ id := "name" }] } }).played 1 [.table 0 (.setPage 2)]

-- The table goes back to the first page for another filter, and stays on its page when it is searched,
-- which it cannot be.
theorem thirdPage_filtered : thirdPage.Arises 0 ∧ (thirdPage.view 0).paging.index = 2 ∧
    TableStep.Adjusts (.setFilter "name" (.text "a")) (fun v => v.setFilter "name" (.text "a")) ∧
    (((performTable (runTo 0) 0 (.setFilter "name" (.text "a"))).outcome thirdPage).2.view 0).paging.index =
      0 ∧
    (thirdPage.view 0).SameRequest
      (((performTable (runTo 0) 0 (.setSearch (.text "a"))).outcome thirdPage).2.view 0) := by
  have reached : Reached thirdPage := (opened_reached _).played 1 _
  obtain ⟨reported, -⟩ := changes_reported (reached.arises 0) (runTo 0)
  have filtered := reported _ _ (.filter "name" (.text "a"))
  have searched := reported _ _ (.search (.text "a"))
  have takes : ((thirdPage.view 0).setFilter "name" (.text "a")).2 = .ok true := by
    have decided : ((thirdPage.view 0).setFilter "name" (.text "a")).2.toOption = some true := by
      decide +kernel
    cases outcome : ((thirdPage.view 0).setFilter "name" (.text "a")).2 with
    | error e =>
      rw [outcome] at decided
      cases decided
    | ok changed =>
      rw [outcome] at decided
      cases decided
      rfl
  have passes : (thirdPage.view 0).setSearch (.text "a") = (thirdPage.view 0, .ok false) :=
    if_neg (by decide +kernel)
  refine ⟨reached.arises 0, by decide +kernel, .filter _ _, filtered.first ?_, searched.same ?_⟩
  · rw [(adjusted (runTo 0) (.filter "name" (.text "a")) thirdPage).1, takes]
    rfl
  · rw [(adjusted (runTo 0) (.search (.text "a")) thirdPage).1, passes]
    exact nofun

end Application

end PagedTable
