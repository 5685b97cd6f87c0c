import PagedTable.Proofs.FilterWrites
import PagedTable.Proofs.Weaving.Running

namespace PagedTable

namespace TableView

variable {v v' : TableView}

-- What is kept for a mode is what the plan gives for it now.
def Coherent (v : TableView) : Prop :=
  ∀ mode n d, Entries.get? mode v.described = some (n, d) →
    v.plan.describe mode v.parent v.filterDefs = .ok d

-- The table is described as its plan has it, with the mode, the parent and the filters of the moment.
def Current (v : TableView) : Prop :=
  v.describe.2.map Prod.snd = v.plan.describe v.mode v.parent v.filterDefs

theorem Coherent.current (coherent : v.Coherent) : v.Current := by
  unfold Current describe
  split
  · rename_i known kept
    obtain ⟨n, d⟩ := known
    exact (coherent v.mode n d kept).symm
  · split <;> rename_i made <;> rw [made] <;> rfl

def makings (v : TableView) :
    TablePlan × Value × List (String × FilterDef) × List (TableMode × Nat × TableDescriptor) :=
  (v.plan, v.parent, v.filters.defs, v.described)

theorem Coherent.same (same : v'.makings = v.makings) (coherent : v.Coherent) : v'.Coherent := by
  simp only [makings, Prod.mk.injEq] at same
  obtain ⟨plan, parent, defs, described⟩ := same
  intro mode n d kept
  rw [described] at kept
  unfold filterDefs
  rw [plan, parent, defs]
  exact coherent mode n d kept

theorem coherent_none (none : v.described = []) : v.Coherent := by
  intro mode n d kept
  rw [none] at kept
  cases kept

theorem Coherent.describe (coherent : v.Coherent) : v.describe.1.Coherent := by
  unfold TableView.describe
  split
  · exact coherent
  · split
    · exact coherent
    · rename_i d made
      intro mode n e kept
      by_cases own : mode = v.mode
      · subst own
        rw [Entries.get?_put_same] at kept
        cases kept
        exact made
      · rw [Entries.get?_put_other own] at kept
        exact coherent mode n e kept

theorem Described.coherent (read : Described v v') (coherent : v.Coherent) : v'.Coherent := by
  rcases read with rfl | rfl
  · exact coherent
  · exact coherent.describe

theorem setFilter_makings (v : TableView) (id : String) (value : Value) :
    (v.setFilter id value).1.makings = v.makings := by
  have defs := FilterState.set_defs v.filters id value
  unfold setFilter
  split <;> rename_i changed <;> rw [changed] at defs <;>
    exact congrArg (fun defs => (v.plan, v.parent, defs, v.described)) defs

theorem setSearch_makings (v : TableView) (text : Value) :
    (v.setSearch text).1.makings = v.makings := by
  unfold setSearch
  split
  · exact v.setFilter_makings searchFilterId text
  · rfl

theorem resetFilters_makings (v : TableView) : v.resetFilters.1.makings = v.makings := by
  have defs : v.filters.reset.1.defs = v.filters.defs := FilterState.reset_restoring.defs
  unfold resetFilters
  split <;> rename_i changed <;> rw [changed] at defs <;>
    exact congrArg (fun defs => (v.plan, v.parent, defs, v.described)) defs

theorem applySorting_makings (v : TableView) (sorting : Sorting) :
    (v.applySorting sorting).1.makings = v.makings := by
  unfold applySorting
  split <;> rfl

theorem setPage_makings (v : TableView) (index : Number) : (v.setPage index).1.makings = v.makings := by
  unfold setPage
  split
  · rfl
  · split <;> rfl

theorem setPageSize_makings (v : TableView) (size : Number) :
    (v.setPageSize size).1.makings = v.makings := by
  unfold setPageSize
  split
  · rfl
  · split <;> rfl

theorem Coherent.setSort (coherent : v.Coherent) (column : Option String) (direction : Value) :
    (v.setSort column direction).1.Coherent := by
  obtain ⟨u, read, ⟨outcome, -, passed⟩ | ⟨sorting, applied⟩⟩ := v.setSort_cases column direction
  · rw [passed]
    exact read.coherent coherent
  · rw [applied]
    exact (read.coherent coherent).same (u.applySorting_makings sorting)

end TableView

theorem Application.startingView_coherent {workspace : Workspace} {o : Application.Opening} {v : TableView}
    (made : Application.startingView workspace o = .ok v) : v.Coherent := by
  obtain ⟨mode, paging, filters, sorting, -, -, rfl⟩ := Application.startingView_made made
  let bare : TableView := { plan := o.plan, mode, parent := o.parent, filters, paging }
  have described : bare.describe.1.Coherent := (TableView.coherent_none rfl).describe
  exact described.same rfl

end PagedTable
