import PagedTable.Proofs.AssignmentTarget
import PagedTable.Proofs.ChangeReports
import PagedTable.Proofs.ClosedTable
import PagedTable.Proofs.LegiblePages

namespace PagedTable

namespace TableView

variable {v v' : TableView} {known : Nat × TableDescriptor}

-- The table is described, and if it is sorted, by a column that it has.
def SortShown (v : TableView) : Prop :=
  ∀ id, v.sorting.active? = some id → ∃ known, v.describe = (v, .ok known) ∧ (known.2.column? id).isSome

-- If the table is sorted, the description that is found or made for it has the column.
def HasSort (v : TableView) : Prop :=
  ∀ id, v.sorting.active? = some id → ∃ known, v.describe.2 = .ok known ∧ (known.2.column? id).isSome

instance (v : TableView) : Decidable v.HasSort :=
  decidable_of_iff
    (v.sorting.active?.all (fun id =>
      v.describe.2.toOption.any fun known => (known.2.column? id).isSome) = true) (by
      unfold HasSort
      cases v.sorting.active? with
      | none => simp
      | some id => cases v.describe.2 <;> simp [Except.toOption])

theorem described_iff : v.describe = (v, .ok known) ↔ Entries.get? v.mode v.described = some known := by
  refine ⟨fun described => ?_, describe_cached⟩
  have kept := describe_caches (show v.describe.2 = .ok known by rw [described])
  rwa [described] at kept

theorem SortShown.kept (shown : v.SortShown) (sorting : v'.sorting = v.sorting) (mode : v'.mode = v.mode)
    (cached : ∀ known, Entries.get? v.mode v.described = some known →
      Entries.get? v.mode v'.described = some known) : v'.SortShown := by
  intro id active
  rw [sorting] at active
  obtain ⟨known, described, there⟩ := shown id active
  refine ⟨known, described_iff.mpr ?_, there⟩
  rw [mode]
  exact cached known (described_iff.mp described)

theorem SortShown.steady (shown : v.SortShown) (steady : Steady v v') (sorting : v'.sorting = v.sorting) :
    v'.SortShown := shown.kept sorting steady.mode steady.cached

theorem sortShown_unsorted (unsorted : v.sorting.active? = none) : v.SortShown := by
  intro id active
  rw [unsorted] at active
  cases active

theorem sortShown_column {id : String} (sorted : v.sorting.column = some id)
    (cached : Entries.get? v.mode v.described = some known) (there : (known.2.column? id).isSome) :
    v.SortShown := by
  intro other active
  have own : other = id := by
    unfold Sorting.active? at active
    rw [sorted] at active
    dsimp only at active
    split at active
    · cases active
    · exact (Option.some.inj active).symm
  exact ⟨known, described_iff.mpr cached, own ▸ there⟩

theorem applySorting_accepted {sorting : Sorting} (accepted : (v.applySorting sorting).2 = .ok true) :
    (v.applySorting sorting).1 = { v with sorting }.toFirstPage := by
  unfold applySorting at accepted ⊢
  split at accepted
  · cases accepted
  · rename_i other
    rw [if_neg other]

theorem setSort_accepted {column : Option String} {direction : Value}
    (accepted : (v.setSort column direction).2 = .ok true) : (v.setSort column direction).1.SortShown := by
  cases read : readDirection direction with
  | error e => simp [setSort, read] at accepted
  | ok direction =>
    cases column with
    | none =>
      simp only [setSort, read] at accepted ⊢
      rw [applySorting_accepted accepted]
      exact sortShown_unsorted rfl
    | some id =>
      rcases described : v.describe with ⟨u, e | ⟨n, d⟩⟩
      · simp [setSort, read, described] at accepted
      · have cached := describe_caches (show v.describe.2 = .ok (n, d) by rw [described])
        rw [described] at cached
        cases there : d.column? id with
        | none => simp [setSort, read, described, there] at accepted
        | some c =>
          cases sortable : c.sortable with
          | false => simp [setSort, read, described, there, sortable] at accepted
          | true =>
            simp only [setSort, read, described, there, sortable, if_true] at accepted ⊢
            rw [applySorting_accepted accepted]
            exact sortShown_column rfl cached (by simp [there])

theorem SortShown.setSort (shown : v.SortShown) (column : Option String) (direction : Value) :
    (v.setSort column direction).1.SortShown := by
  by_cases accepted : (v.setSort column direction).2 = .ok true
  · exact setSort_accepted accepted
  · exact shown.steady (setSort_steady v column direction)
      ((setSort_reported v column direction).same accepted).sorting

theorem Change.sortShown (change : Change v v') (shown : v.SortShown) : v'.SortShown := by
  have filtered (id : String) (value : Value) : (v.setFilter id value).1.SortShown := by
    refine shown.steady (setFilter_steady v id value) ?_
    unfold setFilter
    split <;> rfl
  cases change with
  | described read => exact shown.steady read.steady read.asks.2.1
  | filter id value => exact filtered id value
  | search text =>
    unfold setSearch
    split
    · exact filtered _ text
    · exact shown
  | reset => unfold resetFilters; split <;> exact shown.kept rfl rfl fun _ => id
  | sort column direction => exact shown.setSort column direction
  | page index =>
    unfold setPage
    split
    · exact shown
    · split
      · exact shown
      · exact shown.kept rfl rfl fun _ => id
  | pageSize size =>
    unfold setPageSize
    split
    · exact shown
    · split
      · exact shown
      · exact shown.kept rfl rfl fun _ => id
  | select ids chosen allowed =>
    have read := selection_described v ids
    exact (shown.steady read.steady read.asks.2.1).kept rfl rfl fun _ => id
  | clear | flag => exact shown.kept rfl rfl fun _ => id

theorem shown_sortShown (shown : v.SortShown) (page : Page) (keep : Bool) :
    (v.shown page keep).SortShown := by
  obtain ⟨u, xs, steady, left, -⟩ := shown_left v page keep
  refine shown.kept (shown_asks v page keep).2.1 ?_ fun known cached => ?_
  all_goals rw [left]
  · exact steady.mode
  · exact steady.cached known cached

theorem describe_sortShown : v.describe.1.SortShown ↔ v.HasSort := by
  have same (known : Nat × TableDescriptor) :
      v.describe.1.describe = (v.describe.1, .ok known) ↔ v.describe.2 = .ok known := by
    refine ⟨fun described => ?_, fun read => describe_cached (describe_caches read)⟩
    rw [← describe_twice, described]
  unfold SortShown HasSort
  simp only [same, v.describe_described.asks.2.1]

theorem inMode_sortShown (next : TableMode) :
    (v.inMode next).SortShown ↔ ({ v with mode := next } : TableView).HasSort := by
  rw [← describe_sortShown]
  rcases read : ({ v with mode := next } : TableView).describe with ⟨u, e | ⟨n, d⟩⟩
  · rw [inMode_error read]
  · rw [inMode_ok read]
    split
    · exact Iff.rfl
    · exact ⟨fun shown => shown.kept rfl rfl fun _ => id, fun shown => shown.kept rfl rfl fun _ => id⟩

end TableView

def Occasion.turns? : Occasion → Option TableMode
  | .turning next => some next
  | _ => none

-- Where a table is seen as its mode is switched, the description for the other mode has the column.
def Sight.SparesSort (g : Sight) : Prop :=
  ∀ next ∈ g.occasion.turns?, ({ g.table.view with mode := next } : TableView).HasSort

instance (g : Sight) : Decidable g.SparesSort :=
  inferInstanceAs (Decidable (∀ next ∈ g.occasion.turns?, ({ g.table.view with mode := next } : TableView).HasSort))

namespace Strand

variable {key : Nat} {s s' : Strand}

-- A move that takes the column away is seen as a switch of the mode, or marked as another parent.
theorem Move.sortShown (move : Move key s s') (used : s.table ≠ {}) (shown : s.table.view.SortShown) :
    s'.table.view.SortShown ∨
      (∃ g, s'.sights = g :: s.sights ∧ ¬ g.SparesSort) ∨
      s'.marks = .parentBound :: s.marks := by
  cases move with
  | opened unused view bare numbered keep => exact absurd unused used
  | view change => exact .inl (change.sortShown shown)
  | turn next other =>
    by_cases keeps : ({ s.table.view with mode := next } : TableView).HasSort
    · exact .inl (TableView.inMode_sortShown next |>.mpr keeps)
    · exact .inr (.inl ⟨_, rfl, fun spares => keeps (spares next rfl)⟩)
  | empty top keep | receive answered page keep => exact .inl (TableView.shown_sortShown shown _ _)
  | bind parent => exact .inr (.inr rfl)
  | recount top =>
    obtain ⟨busy, holds, events, sights, recounted⟩ := recounted_eq key s
    rw [recounted]
    exact .inl shown
  | _ => exact .inl shown

theorem Move.sightsAdded (move : Move key s s') :
    ∃ more, s'.sights = more ++ s.sights ∧ ∀ g ∈ more, g.table.view = s.table.view := by
  rcases move.sights with same | ⟨g, seen, view, -⟩
  · exact ⟨[], same, fun _ member => nomatch member⟩
  · exact ⟨[g], seen, fun h member => List.mem_singleton.mp member ▸ view⟩

theorem Move.marksAdded (move : Move key s s') : ∃ left, s'.marks = left ++ s.marks := by
  rcases move.marks with same | ⟨m, more⟩
  · exact ⟨[], same⟩
  · exact ⟨[m], more⟩

theorem Path.sortShown (path : Path key s s') (used : 0 < s.table.view.made) (shown : s.table.view.SortShown) :
    ∃ seen new, s'.sights = seen ++ s.sights ∧ s'.marks = new ++ s.marks ∧
      ((∀ g ∈ seen, g.SparesSort) → .parentBound ∉ new →
        s'.table.view.SortShown ∧ ∀ g ∈ seen, g.table.view.SortShown) := by
  -- the induction is on the moves; those that could take the column away are seen or marked
  induction path with
  | refl => exact ⟨[], [], rfl, rfl, fun _ _ => ⟨shown, fun _ member => nomatch member⟩⟩
  | tail before move ih =>
    rename_i t s'
    obtain ⟨seen, new, sights, marks, lasts⟩ := ih
    have still : t.table ≠ {} := unopened_not (Nat.lt_of_lt_of_le used (Path.samePlan before used).2)
    obtain ⟨more, sights', same⟩ := move.sightsAdded
    obtain ⟨left, marks'⟩ := move.marksAdded
    refine ⟨more ++ seen, left ++ new, by rw [sights', sights, List.append_assoc],
      by rw [marks', marks, List.append_assoc], fun keeps unbound => ?_⟩
    obtain ⟨here, past⟩ := lasts (fun g member => keeps g (List.mem_append_right _ member))
      fun member => unbound (List.mem_append_right _ member)
    refine ⟨?_, fun g member => ?_⟩
    · rcases move.sortShown still here with after | ⟨g, turned, broken⟩ | bound
      · exact after
      · obtain rfl : more = [g] := List.append_cancel_right (sights'.symm.trans turned)
        exact absurd (keeps g (List.mem_append_left _ (List.mem_singleton_self g))) broken
      · obtain rfl : left = [.parentBound] := List.append_cancel_right (marks'.symm.trans bound)
        exact absurd (List.mem_append_left _ (List.mem_singleton_self _)) unbound
    · rcases List.mem_append.mp member with new | old
      · rw [same g new]
        exact here
      · exact past g old

end Strand

namespace Application
open Strand

variable {key : Nat} {w : Application}

theorem sorting_column {column : Option String} {direction : Value} {sorting : Sorting}
    (made : Sorting.make column direction = .ok sorting) : sorting.column = column := by
  unfold Sorting.make at made
  split at made
  · split at made
    · cases made
      rfl
    · cases made
  · cases made

theorem startingView_sortShown {workspace : Workspace} {o : Opening} {v : TableView}
    (made : startingView workspace o = .ok v) : 0 < v.made ∧ v.SortShown := by
  unfold startingView at made
  obtain ⟨mode, -, made⟩ := Act.bind_ok made
  obtain ⟨paging, -, made⟩ := Act.bind_ok made
  obtain ⟨filters, -, made⟩ := Act.bind_ok made
  let bare : TableView := { plan := o.plan, mode, parent := o.parent, filters, paging }
  have numbered : bare.Numbered := fun described => absurd rfl described
  dsimp only at made
  split at made <;> rename_i described
  · cases made
  · rename_i u n d
    have read : bare.describe = (u, .ok (n, d)) := described
    have used := TableView.describe_made numbered (congrArg Prod.snd read)
    have cached := TableView.describe_caches (show bare.describe.2 = .ok (n, d) by rw [read])
    have unsorted : bare.describe.1.sorting = {} := (bare.describe_described).asks.2.1
    rw [read] at used cached unsorted
    split at made
    · cases made
      exact ⟨used, TableView.sortShown_unsorted (congrArg Sorting.active? unsorted)⟩
    · rename_i c first
      obtain ⟨sorting, sorted, made⟩ := Act.bind_ok made
      cases made
      refine ⟨used, TableView.sortShown_column (sorting_column sorted) cached ?_⟩
      exact List.find?_isSome.mpr ⟨c, List.mem_of_find?_eq_some first, by simp⟩

-- The column by which a table is sorted is one of its description when the table has been made, and when
-- an order was accepted. After a switch of the mode, and once it is described under another parent, it is
-- so exactly where the description there has the column. Between these it stays so, at rest and whenever
-- the table is seen.
theorem sort_column_shown (w : Application) (key : Nat) :
    let v := w.view key
    (∀ o u, startingView w.workspace o = .ok u → 0 < u.made ∧ u.SortShown) ∧
    (∀ column direction, (v.setSort column direction).2 = .ok true → (v.setSort column direction).1.SortShown) ∧
    (∀ next, (v.inMode next).SortShown ↔ ({ v with mode := next } : TableView).HasSort) ∧
    (∀ parent, (v.bound parent).describe.1.SortShown ↔ (v.bound parent).HasSort) ∧
    (0 < v.made → v.SortShown → ∀ depth steps,
      let u := w.played depth steps
      ∃ seen new, u.sightsOf key = seen ++ w.sightsOf key ∧ u.marks key = new ++ w.marks key ∧
        ((∀ g ∈ seen, g.SparesSort) → .parentBound ∉ new →
          (u.view key).SortShown ∧ ∀ g ∈ seen, g.table.view.SortShown)) := by
  refine ⟨fun _ _ => startingView_sortShown, fun _ _ => TableView.setSort_accepted,
    TableView.inMode_sortShown, fun _ => TableView.describe_sortShown, fun used shown depth steps => ?_⟩
  have path := (played_weaves depth steps w).paths key []
  obtain ⟨seen, new, sights, marks, lasts⟩ := Path.sortShown path used shown
  rw [marks_strand, marks_strand] at marks
  exact ⟨seen, new, sights, marks, lasts⟩

-- A table with a column that can be sorted by, in read-write mode alone.
def roles : TableSheet where
  columns := some (.ok [{ id := "name", sortable := true }, { id := "role", sortable := true }])
  columnsReadOnly := some (.ok [{ id := "name", sortable := true }])

def byRole : Application :=
  (opened { plan := roles.plan }).played 1 [.table 0 (.setSort (some "role") (.text "asc"))]

-- After the switch the table is sorted by a column that is not there, and asks for that order.
theorem byRole_hidden :
    let w := byRole.played 1 [.table 0 (.setMode (.text "RO"))]
    Reached w ∧ (w.view 0).sorting.active? = some "role" ∧
      ((w.view 0).describe.2.toOption.map fun known => known.2.columns.map ColumnDef.id) = some ["name"] ∧
      ((w.view 0).query.toOption.bind fun q => q.sortField) = some "role" :=
  ⟨((opened_reached _).played 1 _).played 1 _, by decide +kernel, by decide +kernel, by decide +kernel⟩

-- By name it stays sorted, and the column stays, in the other mode and after a page was shown.
theorem byName_shown :
    let u := (opened { plan := roles.plan }).played 1 [.table 0 (.setSort (some "name") (.text "desc")),
      .table 0 (.setMode (.text "RO")), .table 0 .refresh, .complete 0 (.page [] none)]
    (u.view 0).sorting.active? = some "name" ∧ (u.view 0).SortShown := by
  intro u
  let w := opened { plan := roles.plan }
  have used : 0 < (w.view 0).made := by decide +kernel
  have unsorted : (w.view 0).SortShown := TableView.sortShown_unsorted (by decide +kernel)
  obtain ⟨seen, new, sights, marks, lasts⟩ := (sort_column_shown w 0).2.2.2.2 used unsorted 1
    [.table 0 (.setSort (some "name") (.text "desc")), .table 0 (.setMode (.text "RO")), .table 0 .refresh,
      .complete 0 (.page [] none)]
  have first : w.sightsOf 0 = [] := List.length_eq_zero_iff.mp (by decide +kernel)
  have unmarked : w.marks 0 = [] := by decide +kernel
  rw [first, List.append_nil] at sights
  rw [unmarked, List.append_nil] at marks
  have spared : ∀ g ∈ u.sightsOf 0, g.SparesSort := by decide +kernel
  have unbound : .parentBound ∉ u.marks 0 := by decide +kernel
  exact ⟨by decide +kernel, (lasts (sights ▸ spared) (marks ▸ unbound)).1⟩

end Application

end PagedTable
