import Mathlib.Logic.Relation
import PagedTable.Application.Running

namespace PagedTable

def Flagged : Value → Value → Prop :=
  Relation.ReflTransGen fun e e' => ∃ name value, Application.withFlag name value e = .ok e'

namespace Paging

-- A page that can be asked for: not before the first, and not of no rows.
structure Proper (p : Paging) : Prop where
  index : p.index.less 0 = false
  size : p.size.atMost 0 = false

theorem make_proper {index size : Number} {p : Paging} (made : make index size = .ok p) : p.Proper := by
  unfold make checkIndex checkSize at made
  cases before : index.less 0 with
  | true =>
    rw [before] at made
    cases made
  | false =>
    cases none : size.atMost 0 with
    | true =>
      rw [before, none] at made
      cases made
    | false =>
      rw [before, none] at made
      cases made
      exact ⟨before, none⟩

end Paging

namespace TableView

-- Nothing but the description for the current mode may have been made and kept.
def Described (v v' : TableView) : Prop := v' = v ∨ v' = v.describe.1

theorem describe_describe (v : TableView) : v.describe.1.describe.1 = v.describe.1 := by
  cases kept : Entries.get? v.mode v.described with
  | some known => simp [describe, kept]
  | none =>
    cases made : v.plan.describe v.mode v.parent v.filterDefs with
    | error e => simp [describe, kept, made]
    | ok d => simp [describe, kept, made, Entries.get?_put_same]

theorem Described.refl (v : TableView) : Described v v := .inl rfl

theorem Described.trans {u v w : TableView} (one : Described u v) (two : Described v w) :
    Described u w := by
  rcases one with rfl | rfl
  · exact two
  · rcases two with rfl | rfl
    · exact .inr rfl
    · exact .inr (describe_describe u)

theorem Described.asks {v v' : TableView} (read : Described v v') :
    v'.filters = v.filters ∧ v'.sorting = v.sorting ∧ v'.paging = v.paging := by
  rcases read with rfl | rfl
  · exact ⟨rfl, rfl, rfl⟩
  · unfold describe
    split
    · exact ⟨rfl, rfl, rfl⟩
    · split <;> exact ⟨rfl, rfl, rfl⟩

theorem describe_selected (v : TableView) : v.describe.1.selected = v.selected := by
  unfold describe
  split
  · rfl
  · split <;> rfl

theorem describe_described (v : TableView) : Described v v.describe.1 := .inr rfl

theorem rowId_described (v : TableView) (row : Value) : Described v (v.rowId row).1 := by
  rcases read : v.describe with ⟨v', outcome⟩
  have made : v' = v.describe.1 := by rw [read]
  cases outcome with
  | error e => simpa [rowId, read] using .inr made
  | ok d => simpa [rowId, read] using .inr made

theorem identified_described (v : TableView) (rows : List Value) :
    Described v (v.identified rows).1 := by
  induction rows generalizing v with
  | nil => exact .refl v
  | cons row rest ih =>
    have first := rowId_described v row
    unfold identified
    split
    rename_i v' outcome read
    have same : v' = (v.rowId row).1 := by rw [read]
    rw [← same] at first
    cases known outcome with
    | error e => exact first
    | ok id =>
      have later := first.trans (ih v')
      dsimp only
      split <;> rename_i other <;> simpa [other] using later

theorem surviving_described (v : TableView) (keep : Bool) (rows : List Value) :
    Described v (v.surviving keep rows).1 := by
  have read := identified_described v rows
  cases keep with
  | false => exact .refl v
  | true =>
    simp only [surviving, if_true]
    split <;> rename_i other <;> simpa [other] using read

theorem selection_described (v : TableView) (ids : List Value) :
    Described v (v.selection ids).1 := by
  unfold selection
  have first := describe_described v
  split
  · rename_i v' e read
    rw [read] at first
    exact first
  · rename_i v' n d read
    rw [read] at first
    split
    · exact first
    · split
      · exact first
      · have later := first.trans (identified_described v' v'.rows)
        split <;> rename_i other <;> simpa [other] using later

theorem orderIds_described (v : TableView) (ids : List Value) : Described v (v.orderIds ids).1 := by
  unfold orderIds
  have read := identified_described v v.rows
  split
  · exact .refl v
  · split <;> rename_i other <;> simpa [other] using read

theorem selectedRows_described (v : TableView) : Described v v.selectedRows.1 := by
  unfold selectedRows
  have read := identified_described v v.rows
  split <;> rename_i other <;> simpa [other] using read

theorem rowById_described (v : TableView) (id : Value) : Described v (v.rowById id).1 := by
  unfold rowById
  have read := identified_described v v.rows
  split <;> rename_i other <;> simpa [other] using read

-- The view in another mode. What is selected goes where rows cannot be selected.
def inMode (v : TableView) (mode : TableMode) : TableView :=
  match { v with mode }.describe with
  | (v, .ok (_, d)) => if d.table.rowSelection.enabled then v else { v with selected := [] }
  | (v, .error _) => v

theorem inMode_ok {v u : TableView} {mode : TableMode} {n : Nat} {d : TableDescriptor}
    (read : { v with mode }.describe = (u, .ok (n, d))) :
    v.inMode mode = if d.table.rowSelection.enabled then u else { u with selected := [] } := by
  unfold inMode
  rw [read]

theorem inMode_error {v u : TableView} {mode : TableMode} {e : Fault}
    (read : { v with mode }.describe = (u, .error e)) : v.inMode mode = u := by
  unfold inMode
  rw [read]

-- The view under another parent, before anything is asked for there.
def bound (v : TableView) (parent : Value) : TableView :=
  { { v with parent }.forget.toFirstPage with selected := [] }

-- The view with a page in it. Where a row of the page has no usable identity the selection stays.
def shown (v : TableView) (page : Page) (keep : Bool) : TableView :=
  match { v with rows := page.rows, total := page.total }.surviving keep page.rows with
  | (v, .ok selected) => if Members.same selected v.selected then v else { v with selected }
  | (v, .error _) => v

theorem shown_ok {v : TableView} {page : Page} {keep : Bool} {selected : List Value}
    (survives : ({ v with rows := page.rows, total := page.total }.surviving keep page.rows).2 =
      .ok selected) :
    v.shown page keep =
      let read := { v with rows := page.rows, total := page.total }.surviving keep page.rows
      if Members.same selected read.1.selected then read.1 else { read.1 with selected } := by
  unfold shown
  split <;> rename_i read <;> rw [read] at survives ⊢
  · rw [Except.ok.inj survives]
  · cases survives

theorem shown_error {v : TableView} {page : Page} {keep : Bool} {e : Fault}
    (lost : ({ v with rows := page.rows, total := page.total }.surviving keep page.rows).2 = .error e) :
    v.shown page keep =
      ({ v with rows := page.rows, total := page.total }.surviving keep page.rows).1 := by
  unfold shown
  split <;> rename_i read <;> rw [read] at lost ⊢
  cases lost

theorem surviving_none (v : TableView) (keep : Bool) : v.surviving keep [] = (v, .ok []) := by
  cases keep with
  | false => rfl
  | true =>
    have none : common v.selected [] = [] := if_neg (Nat.not_lt_zero _)
    simp [surviving, identified, allHashable, Value.allHashable, Except.map, Members.ofList, none]

inductive Change : TableView → TableView → Prop where
  | described (read : Described v v') : Change v v'
  | filter (id : String) (value : Value) : Change v (v.setFilter id value).1
  | search (text : Value) : Change v (v.setSearch text).1
  | reset : Change v v.resetFilters.1
  | sort (column : Option String) (direction : Value) : Change v (v.setSort column direction).1
  | page (index : Number) : Change v (v.setPage index).1
  | pageSize (size : Number) : Change v (v.setPageSize size).1
  | select (ids chosen : List Value) (allowed : (v.selection ids).2 = .ok (some chosen)) :
      Change v { (v.selection ids).1 with selected := chosen }
  | clear : Change v { v with selected := [] }
  | flag (name : String) (value entity : Value)
      (set : Application.withFlag name value v.parent = .ok entity) :
      Change v { v with parent := entity }

def SameRows (v v' : TableView) : Prop := v'.rows = v.rows ∧ v'.total = v.total

theorem SameRows.trans {u v w : TableView} (one : SameRows u v) (two : SameRows v w) : SameRows u w :=
  ⟨two.1.trans one.1, two.2.trans one.2⟩

-- Descriptions are counted as they are made.
def Numbered (v : TableView) : Prop := v.described ≠ [] → 0 < v.made

-- What is kept as a description of the table was made for the entity that is bound, with its flags as
-- they were then.
def Faithful (v : TableView) : Prop :=
  ∀ mode n d, Entries.get? mode v.described = some (n, d) →
    ∃ parent filters, Flagged parent v.parent ∧ v.plan.describe mode parent filters = .ok d

theorem describe_faithful {v : TableView} (faithful : v.Faithful) : v.describe.1.Faithful := by
  unfold describe
  split
  · exact faithful
  · split
    · exact faithful
    · rename_i d made
      intro mode n e kept
      by_cases own : mode = v.mode
      · subst own
        rw [Entries.get?_put_same] at kept
        cases kept
        exact ⟨v.parent, v.filterDefs, .refl, made⟩
      · rw [Entries.get?_put_other own] at kept
        exact faithful mode n e kept

-- The same plan, parent and rows. Descriptions may have been made.
structure Kept (v v' : TableView) : Prop where
  plan : v'.plan = v.plan
  parent : v'.parent = v.parent
  rows : SameRows v v'
  made : v.made ≤ v'.made
  numbered : v.Numbered → v'.Numbered

def core (v : TableView) :
    TablePlan × Value × List Value × Number × List (TableMode × Nat × TableDescriptor) × Nat :=
  (v.plan, v.parent, v.rows, v.total, v.described, v.made)

theorem Kept.same {v v' : TableView} (same : v'.core = v.core) : Kept v v' := by
  simp only [core, Prod.mk.injEq] at same
  obtain ⟨plan, parent, rows, total, described, made⟩ := same
  refine ⟨plan, parent, ⟨rows, total⟩, Nat.le_of_eq made.symm, fun numbered => ?_⟩
  unfold Numbered
  rw [described, made]
  exact numbered

theorem Kept.refl (v : TableView) : Kept v v := .same rfl

theorem Kept.trans {u v w : TableView} (one : Kept u v) (two : Kept v w) : Kept u w where
  plan := two.plan.trans one.plan
  parent := two.parent.trans one.parent
  rows := one.rows.trans two.rows
  made := Nat.le_trans one.made two.made
  numbered numbered := two.numbered (one.numbered numbered)

theorem describe_kept (v : TableView) : Kept v v.describe.1 := by
  unfold describe
  split
  · exact .refl v
  · split
    · exact .refl v
    · exact ⟨rfl, rfl, ⟨rfl, rfl⟩, Nat.le_succ _, fun _ _ => Nat.succ_pos _⟩

theorem describe_made {v : TableView} {n : Nat} {d : TableDescriptor} (numbered : v.Numbered)
    (read : v.describe.2 = .ok (n, d)) : 0 < v.describe.1.made := by
  cases kept : Entries.get? v.mode v.described with
  | some known =>
    have same : v.describe.1 = v := by simp [describe, kept]
    rw [same]
    apply numbered
    intro none
    rw [none] at kept
    cases kept
  | none =>
    cases made : v.plan.describe v.mode v.parent v.filterDefs with
    | error e => simp [describe, kept, made] at read
    | ok d => simp [describe, kept, made]

-- Nothing but the filters, the page and the sorting that are asked for has changed.
structure Steady (v v' : TableView) : Prop extends Kept v v' where
  mode : v'.mode = v.mode
  selected : v'.selected = v.selected
  cached : ∀ known, Entries.get? v.mode v.described = some known →
    Entries.get? v.mode v'.described = some known
  faithful : v.Faithful → v'.Faithful

theorem Steady.same {v v' : TableView}
    (same : (v'.core, v'.mode, v'.selected) = (v.core, v.mode, v.selected)) : Steady v v' := by
  obtain ⟨core, rest⟩ := Prod.mk.inj same
  obtain ⟨mode, selected⟩ := Prod.mk.inj rest
  have kept := Kept.same core
  simp only [TableView.core, Prod.mk.injEq] at core
  obtain ⟨-, -, -, -, described, -⟩ := core
  refine { kept with mode, selected, cached := fun _ cached => ?_, faithful := fun faithful => ?_ }
  · rw [described]
    exact cached
  · intro mode n d known
    rw [described] at known
    rw [kept.parent, kept.plan]
    exact faithful mode n d known

theorem Steady.refl (v : TableView) : Steady v v := .same rfl

theorem Steady.trans {u v w : TableView} (one : Steady u v) (two : Steady v w) : Steady u w where
  toKept := one.toKept.trans two.toKept
  mode := two.mode.trans one.mode
  selected := two.selected.trans one.selected
  cached known cached := by
    have first := one.cached known cached
    rw [← one.mode] at first ⊢
    exact two.cached known first
  faithful faithful := two.faithful (one.faithful faithful)

theorem describe_steady (v : TableView) : Steady v v.describe.1 := by
  have kept := describe_kept v
  have selected := describe_selected v
  have faithful : v.Faithful → v.describe.1.Faithful := describe_faithful
  refine { kept with mode := ?_, selected, cached := fun known cached => ?_, faithful }
  all_goals unfold describe
  · split
    · rfl
    · split <;> rfl
  · rw [cached]
    exact cached

theorem Described.steady {v v' : TableView} (read : Described v v') : Steady v v' := by
  rcases read with rfl | rfl
  · exact .refl _
  · exact describe_steady v

theorem setFilter_steady (v : TableView) (id : String) (value : Value) :
    Steady v (v.setFilter id value).1 := by
  unfold setFilter
  split <;> exact .same rfl

theorem applySorting_steady (v : TableView) (sorting : Sorting) :
    Steady v (v.applySorting sorting).1 := by
  unfold applySorting
  split <;> exact .same rfl

theorem setSort_cases (v : TableView) (column : Option String) (direction : Value) :
    ∃ u, Described v u ∧
      ((∃ outcome, outcome ≠ .ok true ∧ v.setSort column direction = (u, outcome)) ∨
        ∃ sorting, v.setSort column direction = u.applySorting sorting) := by
  unfold setSort
  split
  · exact ⟨v, .refl v, .inl ⟨_, by simp, rfl⟩⟩
  · split
    · exact ⟨v, .refl v, .inr ⟨_, rfl⟩⟩
    · have read := describe_described v
      split <;> rename_i described <;> rw [described] at read
      · exact ⟨_, read, .inl ⟨_, by simp, rfl⟩⟩
      · split
        · exact ⟨_, read, .inl ⟨_, by simp, rfl⟩⟩
        · split
          · exact ⟨_, read, .inr ⟨_, rfl⟩⟩
          · exact ⟨_, read, .inl ⟨_, by simp, rfl⟩⟩

theorem setSort_steady (v : TableView) (column : Option String) (direction : Value) :
    Steady v (v.setSort column direction).1 := by
  obtain ⟨u, read, ⟨outcome, -, passed⟩ | ⟨sorting, applied⟩⟩ := setSort_cases v column direction
  · rw [passed]
    exact read.steady
  · rw [applied]
    exact read.steady.trans (applySorting_steady u sorting)

theorem inMode_turned (v : TableView) (next : TableMode) : ∃ u, Steady { v with mode := next } u ∧
    (v.inMode next = u ∨ v.inMode next = { u with selected := [] }) := by
  have steady := describe_steady { v with mode := next }
  rcases read : ({ v with mode := next } : TableView).describe with ⟨u, e | ⟨n, d⟩⟩
  all_goals rw [read] at steady
  · exact ⟨u, steady, .inl (inMode_error read)⟩
  · refine ⟨u, steady, ?_⟩
    rw [inMode_ok read]
    split
    · exact .inl rfl
    · exact .inr rfl

theorem inMode_kept (v : TableView) (mode : TableMode) : Kept v (v.inMode mode) := by
  have moded : Kept v { v with mode } := .same rfl
  obtain ⟨u, steady, same | none⟩ := inMode_turned v mode
  · rw [same]
    exact moded.trans steady.toKept
  · rw [none]
    exact (moded.trans steady.toKept).trans (.same rfl)

-- What is changed beside what is asked for: the selection, or flags of the parent in place.
theorem Change.steady {v v' : TableView} (change : Change v v') : Steady v v' ∨
    (∃ ids chosen, (v.selection ids).2 = .ok (some chosen) ∧
      v' = { (v.selection ids).1 with selected := chosen }) ∨
    v' = { v with selected := [] } ∨
    ∃ name value entity, Application.withFlag name value v.parent = .ok entity ∧
      v' = { v with parent := entity } := by
  cases change with
  | described read => exact .inl read.steady
  | filter id value => exact .inl (setFilter_steady v id value)
  | search text =>
    unfold setSearch
    split
    · exact .inl (setFilter_steady v _ text)
    · exact .inl (.refl v)
  | reset => unfold resetFilters; split <;> exact .inl (.same rfl)
  | sort column direction => exact .inl (setSort_steady v column direction)
  | page index =>
    unfold setPage
    split
    · exact .inl (.refl v)
    · split <;> exact .inl (.same rfl)
  | pageSize size =>
    unfold setPageSize
    split
    · exact .inl (.refl v)
    · split <;> exact .inl (.same rfl)
  | select ids chosen allowed => exact .inr (.inl ⟨ids, chosen, allowed, rfl⟩)
  | clear => exact .inr (.inr (.inl rfl))
  | flag name value entity set => exact .inr (.inr (.inr ⟨name, value, entity, set, rfl⟩))

theorem Change.kept {v v' : TableView} (change : Change v v') :
    Kept v v' ∨ ∃ name value entity, Application.withFlag name value v.parent = .ok entity ∧
      v' = { v with parent := entity } := by
  rcases change.steady with steady | ⟨ids, chosen, -, rfl⟩ | rfl | flagged
  · exact .inl steady.toKept
  · exact .inl ((selection_described v ids).steady.toKept.trans (.same rfl))
  · exact .inl (.same rfl)
  · exact .inr flagged

theorem Change.rows {v v' : TableView} (change : Change v v') : SameRows v v' := by
  rcases change.kept with kept | ⟨name, value, entity, -, rfl⟩
  · exact kept.rows
  · exact ⟨rfl, rfl⟩

-- What is selected once a page is shown: what survives on it, unless that cannot be told or is no other
-- selection.
inductive Left (v : TableView) (page : Page) (keep : Bool) : List Value → Prop where
  | untold (survives : ({ v with rows := page.rows, total := page.total }.surviving keep page.rows).2 =
      .error e) : Left v page keep v.selected
  | same (survives : ({ v with rows := page.rows, total := page.total }.surviving keep page.rows).2 =
      .ok xs) (same : Members.same xs v.selected = true) : Left v page keep v.selected
  | other (survives : ({ v with rows := page.rows, total := page.total }.surviving keep page.rows).2 =
      .ok xs) : Left v page keep xs

theorem shown_left (v : TableView) (page : Page) (keep : Bool) :
    ∃ u xs, Steady { v with rows := page.rows, total := page.total } u ∧
      v.shown page keep = { u with selected := xs } ∧ v.Left page keep xs := by
  let read := ({ v with rows := page.rows, total := page.total } : TableView).surviving keep page.rows
  have steady : Steady { v with rows := page.rows, total := page.total } read.1 :=
    (surviving_described _ keep page.rows).steady
  have before : read.1.selected = v.selected := steady.selected
  have kept : read.1 = { read.1 with selected := v.selected } := by rw [← before]
  cases survives : read.2 with
  | error e => exact ⟨read.1, v.selected, steady, (shown_error survives).trans kept, .untold survives⟩
  | ok selected =>
    rw [shown_ok survives]
    dsimp only
    split
    · rename_i same
      rw [before] at same
      exact ⟨read.1, v.selected, steady, kept, .same survives same⟩
    · exact ⟨read.1, selected, steady, rfl, .other survives⟩

theorem shown_kept (v : TableView) (page : Page) (keep : Bool) :
    Kept { v with rows := page.rows, total := page.total } (v.shown page keep) := by
  obtain ⟨u, xs, steady, shown, -⟩ := shown_left v page keep
  rw [shown]
  exact steady.toKept.trans (.same rfl)

end TableView

end PagedTable
