import PagedTable.Proofs.LegiblePages
import PagedTable.Proofs.SelectionRules

namespace PagedTable

-- Rows can be selected, and if the rows have plain identities each that is selected is that of a row.
def Rule.confined : Rule := fun d rows ids =>
  d.table.rowSelection.enabled = true ∧
  ((∀ row ∈ rows, row.Identified d.table.rowIdField) → ∀ id ∈ ids,
    ∃ row ∈ rows, ∃ own, row.identity d.table.rowIdField = .ok own ∧ own.same id = true)

namespace TablePlan

-- The rows lie by one field in every mode.
def RowsBy (p : TablePlan) (field : String) : Prop :=
  ∀ mode parent d, p.table mode parent = .ok d → d.rowIdField = field

theorem describe_table {p : TablePlan} {mode : TableMode} {parent : Value} {filters : List FilterDef}
    {d : TableDescriptor} (described : p.describe mode parent filters = .ok d) :
    p.table mode parent = .ok d.table := by
  unfold describe at described
  obtain ⟨table, found, described⟩ := Act.bind_ok described
  obtain ⟨columns, -, described⟩ := Act.bind_ok described
  obtain ⟨actions, -, described⟩ := Act.bind_ok described
  cases described
  exact found

end TablePlan

namespace TableView

variable {v v' : TableView} {field : String}

theorem Faithful.lying (faithful : v.Faithful) (lies : v.plan.RowsBy field) {mode : TableMode} {n : Nat}
    {d : TableDescriptor} (cached : Entries.get? mode v.described = some (n, d)) :
    d.table.rowIdField = field := by
  obtain ⟨parent, filters, -, described⟩ := faithful mode n d cached
  exact lies mode parent d.table (TablePlan.describe_table described)

def Enough (v : TableView) : Prop := (Number.int v.rows.length).atMost v.total = true

theorem SameRows.enough (same : SameRows v v') (enough : v.Enough) : v'.Enough := by
  unfold Enough
  rw [same.1, same.2]
  exact enough

structure Orderly (v : TableView) : Prop where
  faithful : v.Faithful
  numbered : v.Numbered
  enough : v.Enough
  real : v.Real

theorem Change.faithful (change : Change v v') (faithful : v.Faithful) : v'.Faithful := by
  rcases change.steady with steady | ⟨ids, chosen, -, rfl⟩ | rfl | ⟨name, value, entity, set, rfl⟩
  · exact steady.faithful faithful
  · exact (selection_described v ids).steady.faithful faithful
  · exact faithful
  · intro mode n d kept
    obtain ⟨parent, filters, before, described⟩ := faithful mode n d kept
    exact ⟨parent, filters, before.tail ⟨name, value, set⟩, described⟩

theorem inMode_faithful (faithful : v.Faithful) (next : TableMode) : (v.inMode next).Faithful := by
  obtain ⟨u, steady, same | none⟩ := inMode_turned v next
  · rw [same]
    exact steady.faithful faithful
  · rw [none]
    exact steady.faithful faithful

theorem shown_faithful (faithful : v.Faithful) (page : Page) (keep : Bool) :
    (v.shown page keep).Faithful := by
  obtain ⟨u, xs, steady, shown, -⟩ := shown_left v page keep
  rw [shown]
  exact steady.faithful faithful

theorem shown_enough (v : TableView) (page : Page) (keep : Bool) : (v.shown page keep).Enough :=
  (shown_kept v page keep).rows.enough (by simp [Enough, Number.atMost, page.enough])

theorem shown_confined (obeys : v.Obeys .confined) (real : v.Real) (page : Page) (keep : Bool) :
    (v.shown page keep).Obeys .confined := by
  obtain ⟨u, xs, steady, shown, left⟩ := shown_left v page keep
  rw [shown]
  intro some
  obtain ⟨n, d, cached, enabled, -⟩ := obeys fun none => some (left.none_of_none none)
  have survive : v.Survivors d.table.rowIdField page keep xs :=
    left.survivors real fun _ => ⟨n, d, cached, rfl⟩
  exact shown_obeys steady cached ⟨enabled, survive.present⟩ some

-- A switch of the mode that can be described keeps the rule, if the rows lie by one field.
theorem inMode_confined (obeys : v.Obeys .confined) (faithful : v.Faithful) (lies : v.plan.RowsBy field)
    (some : v.selected ≠ []) {next : TableMode} (broken : ¬ (v.inMode next).Obeys .confined) :
    ∃ e, ({ v with mode := next } : TableView).describe.2 = .error e := by
  rcases read : ({ v with mode := next } : TableView).describe with ⟨u, e | ⟨n, d⟩⟩
  · exact ⟨e, rfl⟩
  exfalso
  have steady := describe_steady { v with mode := next }
  have turned := describe_caches (v := { v with mode := next }) (by rw [read])
  rw [read] at steady turned
  dsimp only at steady turned
  rw [inMode_ok read] at broken
  split at broken <;> rename_i enabled
  · obtain ⟨m, c, cached, -, present⟩ := obeys some
    have same : d.table.rowIdField = c.table.rowIdField := by
      have after : u.Faithful := steady.faithful faithful
      rw [after.lying (steady.plan ▸ lies) turned, faithful.lying lies cached]
    refine broken fun _ => ⟨n, d, turned, enabled, ?_⟩
    rw [same, steady.rows.1, steady.selected]
    exact present
  · exact broken (.none rfl)

end TableView

-- The mode is switched while rows are selected, to one that cannot be described.
inductive Sight.Strands (g : Sight) : Prop where
  | mode (next : TableMode) (turning : g.occasion = .turning next) (some : g.table.view.selected ≠ [])
      (undescribed : ({ g.table.view with mode := next } : TableView).describe.2 = .error e)

namespace Sight.Breaks

variable {rule : Rule} {g : Sight}

theorem chosen (breaks : g.Breaks rule) : g.table.view.selected ≠ [] := by
  intro none
  cases breaks with
  | page page keep showing broken =>
    obtain ⟨u, xs, steady, shown, left⟩ := TableView.shown_left g.table.view page keep
    exact broken (.none (by rw [shown, left.none_of_none none]))
  | mode next turning broken =>
    obtain ⟨u, steady, same | gone⟩ := TableView.inMode_turned g.table.view next
    · exact broken (.none (by rw [same, steady.selected, none]))
    · exact broken (.none (by rw [gone]))

theorem strands (breaks : g.Breaks .confined) (obeys : g.table.view.Obeys .confined)
    (orderly : g.table.view.Orderly) {field : String} (lies : g.table.view.plan.RowsBy field) :
    g.Strands := by
  have some := breaks.chosen
  cases breaks with
  | page page keep showing broken =>
    exact absurd (TableView.shown_confined obeys orderly.real page keep) broken
  | mode next turning broken =>
    obtain ⟨e, undescribed⟩ := TableView.inMode_confined obeys orderly.faithful lies some broken
    exact .mode next turning some undescribed

end Sight.Breaks

namespace Strand

variable {key : Nat} {s s' : Strand}

theorem Move.orderly (move : Move key s s') (orderly : s.table.view.Orderly) : s'.table.view.Orderly := by
  have numbered := move.numbered orderly.numbered
  have real : s'.table.view.Real := move.lawful TableView.real_lawful orderly.real
  cases move with
  | opened unused view bare fresh keep unselected faithful =>
    exact ⟨faithful, numbered, bare.enough orderly.enough, real⟩
  | view change =>
    exact ⟨change.faithful orderly.faithful, numbered, change.rows.enough orderly.enough, real⟩
  | turn next other =>
    have kept := TableView.inMode_kept s.table.view next
    exact ⟨TableView.inMode_faithful orderly.faithful next, numbered, kept.rows.enough orderly.enough, real⟩
  | empty top keep | receive answered page keep =>
    exact ⟨TableView.shown_faithful orderly.faithful _ _, numbered, TableView.shown_enough _ _ _, real⟩
  | bind parent => exact ⟨(fun _ _ _ kept => nomatch kept), numbered, orderly.enough, real⟩
  | recount top =>
    obtain ⟨busy, holds, events, sights, recounted⟩ := recounted_eq key s
    rw [recounted] at numbered real ⊢
    exact ⟨orderly.faithful, numbered, orderly.enough, real⟩
  | _ => exact ⟨orderly.faithful, numbered, orderly.enough, real⟩

end Strand

namespace Application
open Strand

variable {w : Application} {key : Nat} {v : TableView} {field : String}

end Application

end PagedTable
