import PagedTable.Proofs.BuiltQueries
import PagedTable.Proofs.ChangeReports
import PagedTable.Proofs.SiteScope

namespace PagedTable

-- Neither of the values that restrict nothing, and not several of these alone.
def Restriction.Restricts : Restriction → Prop
  | .one s => s ≠ "" ∧ s ≠ allKey
  | .many texts => ∃ s ∈ texts, s ≠ allKey
  | .other _ => False

-- A query that can be sent. Its numbers are fractions with positive denominators; how many rows it skips is
-- exact where they are whole.
structure Query.WellFormed (q : Query) (statics : Fields) : Prop where
  page : 0 ≤ q.page.value.1
  pageSize : 0 < q.pageSize.value.1
  skip : ∀ n, q.skip = .ok n ↔ q.page.mul q.pageSize = some n
  whole : ∀ m n, q.page.whole? = some m → q.pageSize.whole? = some n → q.skip = .ok (.int (m * n))
  directed : q.sortDirection.isSome = q.sortField.isSome
  direction : ∀ d, q.sortDirection = some d → d ∈ Direction.choices
  column : q.sortField ≠ some ""
  restricted : ∀ f ∈ q.filters, f ∈ Query.staticWrites statics ∨ f.2.Restricts

-- A query of a table with this plan: beside what the plan says it restricts by filters that do restrict.
def Query.WellFormedFor (q : Query) (plan : TablePlan) : Prop :=
  ∃ statics, (statics = [] ∨ ∃ parent, plan.statics parent = .ok statics) ∧ q.WellFormed statics

namespace Value

variable {v : Value} {s : String}

theorem iso_dash (d : Date) : '-' ∈ d.iso := by simp [Date.iso]

theorem dash_restricts {chars : List Char} (dash : '-' ∈ chars) :
    (Restriction.one (String.ofList chars)).Restricts := by
  constructor <;> intro same
  · have none : chars = [] := by simpa using congrArg String.toList same
    rw [none] at dash
    cases dash
  · have letters : chars = ['a', 'l', 'l'] := by simpa [allKey] using congrArg String.toList same
    rw [letters] at dash
    simp at dash

theorem date_restricts (dated : v.isDate = true) : v.restriction.Restricts := by
  cases v with
  | date d => exact dash_restricts (iso_dash d)
  | moment m =>
    refine dash_restricts ?_
    split
    · exact List.mem_append_left _ (List.mem_append_left _ (iso_dash m.date))
    · exact List.mem_append_left _ (List.mem_append_left _ (iso_dash m.date))
  | _ => cases dated

theorem texts_restrict {texts : List String} (set : (tuple (texts.map .text)).unset = false) :
    (tuple (texts.map .text)).restriction.Restricts := by
  have some : ∃ s ∈ texts, s ≠ allKey := by
    simpa [unset, isAllKey] using set
  obtain ⟨s, member, other⟩ := some
  have plain : (texts.map text).map plain = texts := by
    rw [List.map_map]
    exact List.map_id _
  refine ⟨s, ?_, other⟩
  rw [plain]
  exact (Text.sort_perm texts).mem_iff.mpr member

end Value

theorem FilterDef.contributions_restrict {d : FilterDef} {v : Value} (normal : d.Normal v)
    (set : v.unset = false) (dated : v.Dated) : ∀ c ∈ d.contributions v, c.2.restriction.Restricts := by
  have some : v ≠ .null := by
    rintro rfl
    cases set
  by_cases kind : d.kind = .dateRange
  · obtain ⟨first, last, rfl⟩ := normal.range_of_kind kind some
    obtain ⟨start, stop⟩ := dated first last rfl
    have end_restricts {end_ : Value} (isEnd : end_.IsEnd) (given : end_.isNull = false) :
        end_.restriction.Restricts := by
      rcases isEnd with rfl | date
      · cases given
      · exact Value.date_restricts date
    intro c member
    simp only [contributions, kind, List.mem_filter, Bool.not_eq_true'] at member
    obtain ⟨either, given⟩ := member
    rcases List.mem_cons.mp either with rfl | last
    · exact end_restricts start given
    · rw [List.mem_singleton.mp last] at given ⊢
      exact end_restricts stop given
  · rw [contributions_single kind]
    intro c member
    rw [List.mem_singleton.mp member]
    cases normal with
    | null => exact absurd rfl some
    | range dateRange => exact absurd dateRange kind
    | date _ date => exact Value.date_restricts date
    | texts => exact Value.texts_restrict set
    | text =>
      simp only [Value.unset, Bool.or_eq_false_iff, decide_eq_false_iff_not] at set
      exact set

theorem FilterState.active_set {s : FilterState} : ∀ a ∈ s.active, a.2.unset = false := by
  intro a member
  obtain ⟨e, kept, rfl⟩ := List.mem_map.mp member
  have isSet := (List.mem_filter.mp kept).2
  rw [FilterState.isSet, Bool.not_eq_true'] at isSet
  exact isSet

theorem Paging.Proper.values {p : Paging} (proper : p.Proper) :
    0 ≤ p.index.value.1 ∧ 0 < p.size.value.1 := by
  obtain ⟨index, size⟩ := proper
  have zero : (0 : Number).value = (0, 1) := rfl
  simp only [Number.atMost, Number.less, zero, Bool.not_eq_false', decide_eq_true_eq,
    decide_eq_false_iff_not] at index size
  omega

theorem Query.skip_eq_ok {q : Query} {n : Number} :
    q.skip = .ok n ↔ q.page.mul q.pageSize = some n := by
  unfold Query.skip
  cases q.page.mul q.pageSize <;> simp

namespace TableView

variable {v v' : TableView} {q : Query}

theorem query_formed (sound : v.filters.Sound) (proper : v.paging.Proper) (built : v.query = .ok q) :
    q.WellFormedFor v.plan := by
  obtain ⟨statics, found, made⟩ := Act.bind_ok built
  refine ⟨statics, .inr ⟨v.parent, found⟩, ?_⟩
  by_cases dated : v.filters.Dated
  · rw [Query.build_dated sound.inForm dated] at made
    cases made
    obtain ⟨page, size⟩ := proper.values
    refine ⟨page, size, fun _ => Query.skip_eq_ok, ?_, ?_, ?_, ?_, ?_⟩
    · intro m n index rows
      simp only [Query.skip, Number.mul, index, rows]
    · cases v.sorting.active? <;> rfl
    · intro d direction
      obtain ⟨c, -, rfl⟩ := Option.map_eq_some_iff.mp direction
      cases v.sorting.direction <;> decide
    · exact fun none => (Sorting.column_of_active none).2 rfl
    · intro f member
      rcases List.mem_append.mp ((Entries.mem_putAll member).resolve_right nofun) with user | static
      · obtain ⟨c, contributed, rfl⟩ := List.mem_map.mp user
        obtain ⟨a, active, own⟩ := List.mem_flatMap.mp contributed
        exact .inr (FilterDef.contributions_restrict (sound.inForm.active a active).1
          (FilterState.active_set a active) (dated a active) c own)
      · exact .inl static
  · rw [Query.build_undated sound.inForm dated] at made
    cases made

theorem toFirstPage_proper (proper : v.paging.Proper) : v.toFirstPage.paging.Proper := ⟨rfl, proper.size⟩

theorem setFilter_proper (proper : v.paging.Proper) (id : String) (value : Value) :
    (v.setFilter id value).1.paging.Proper := by
  unfold setFilter
  split
  · exact toFirstPage_proper proper
  · exact proper

theorem applySorting_proper (proper : v.paging.Proper) (sorting : Sorting) :
    (v.applySorting sorting).1.paging.Proper := by
  unfold applySorting
  split
  · exact proper
  · exact toFirstPage_proper proper

theorem Change.proper (change : Change v v') (proper : v.paging.Proper) : v'.paging.Proper := by
  have described {u : TableView} (read : Described v u) : u.paging.Proper := by
    rw [read.asks.2.2]
    exact proper
  cases change with
  | described read => exact described read
  | filter id value => exact setFilter_proper proper id value
  | search text =>
    unfold setSearch
    split
    · exact setFilter_proper proper _ text
    · exact proper
  | reset =>
    unfold resetFilters
    split
    · exact toFirstPage_proper proper
    · exact proper
  | sort column direction =>
    obtain ⟨u, read, ⟨outcome, -, passed⟩ | ⟨sorting, applied⟩⟩ := setSort_cases v column direction
    · rw [passed]
      exact described read
    · rw [applied]
      exact applySorting_proper (described read) sorting
  | page index =>
    unfold setPage
    split
    · exact proper
    · rename_i early
      split
      · exact proper
      · exact ⟨Bool.not_eq_true _ ▸ early, proper.size⟩
  | pageSize size =>
    unfold setPageSize
    split
    · exact proper
    · rename_i none
      split
      · exact proper
      · exact ⟨rfl, Bool.not_eq_true _ ▸ none⟩
  | select ids chosen allowed =>
    have read : (v.selection ids).1.paging.Proper := described (selection_described v ids)
    exact read
  | clear => exact proper
  | flag name value entity set => exact proper

end TableView

def Event.query? : Event → Option Query
  | .call _ (.list q) => some q
  | .exported _ _ q _ => some q
  | _ => none

namespace Strand

variable {key : Nat} {s s' : Strand} {q : Query}

theorem Move.proper (move : Move key s s') (proper : s.table.view.paging.Proper) :
    s'.table.view.paging.Proper := by
  cases move with
  | opened unused view bare numbered keep unselected faithful sound paged => exact paged
  | view change => exact change.proper proper
  | turn next other =>
    rw [← (TableView.inMode_asks s.table.view next).2.2] at proper
    exact proper
  | empty top keep =>
    rw [← (TableView.shown_asks s.table.view Page.empty keep).2.2] at proper
    exact proper
  | receive answered page keep =>
    rw [← (TableView.shown_asks s.table.view page keep).2.2] at proper
    exact proper
  | recount top =>
    obtain ⟨busy, holds, events, sights, recounted⟩ := recounted_eq key s
    rw [recounted]
    exact proper
  | bind parent => exact ⟨rfl, proper.size⟩
  | _ => exact proper

theorem Path.proper (path : Path key {} s) : s.table.view.paging.Proper := by
  induction path with
  | refl => exact ⟨rfl, rfl⟩
  | tail _ move ih => exact move.proper ih

structure Posed (s : Strand) : Prop where
  asking : ∀ token q, .asking token q ∈ s.tasks → q.WellFormedFor s.table.view.plan
  sent : ∀ e ∈ s.events, ∀ q, e.query? = some q → q.WellFormedFor s.table.view.plan

-- A query is sent that was to be, or the one that the table has.
theorem Move.sends (move : Move key s s') (prepared : s.Prepared) {e : Event} (member : e ∈ s'.events)
    (sent : e.query? = some q) :
    e ∈ s.events ∨ (∃ token, .asking token q ∈ s.tasks) ∨ s.table.view.query = .ok q := by
  have marked {m : Mark} (member : e ∈ .mark key m :: s.events) : e ∈ s.events := by
    rcases List.mem_cons.mp member with rfl | before
    · cases sent
    · exact before
  cases move with
  | note own quiet exports =>
    rcases List.mem_cons.mp member with rfl | before
    · cases e with
      | exported key table query filters =>
        cases sent
        exact .inr (.inr exports)
      | call key c => cases quiet
      | _ => cases sent
    · exact .inl before
  | ask top keep =>
    rcases List.mem_cons.mp member with rfl | before
    · cases sent
      exact .inr (.inl ⟨_, by rw [top]; exact List.mem_cons_self⟩)
    · exact .inl before
  | @request _ _ m call top =>
    rcases List.mem_cons.mp member with rfl | before
    · obtain ⟨kind, own⟩ := prepared.starting m call (by rw [top]; exact List.mem_cons_self)
      cases call with
      | list query => cases own
      | _ => cases sent
    · exact .inl before
  | recount top =>
    by_cases same : Application.isWaiting s.table = s.table.busy
    · rw [recounted_same same] at member
      exact .inl (marked member)
    · rw [recounted_changed same] at member
      rcases List.mem_cons.mp member with rfl | before
      · cases sent
      · exact .inl (marked before)
  | join | refuse | empty | receive | lose | pass | bind | release | close => exact .inl (marked member)
  | _ => exact .inl member

theorem Move.formed (move : Move key s s') (formed : q.WellFormedFor s.table.view.plan) :
    q.WellFormedFor s'.table.view.plan := by
  by_cases unused : s.table = {}
  · obtain ⟨statics, given, wellFormed⟩ := formed
    have none : statics = [] := by
      rcases given with none | ⟨parent, own⟩
      · exact none
      · rw [unused] at own
        cases own
        rfl
    exact ⟨statics, .inl none, wellFormed⟩
  · rw [(move.samePlan unused).1]
    exact formed

theorem Move.posed (move : Move key s s') (sound : s.table.view.filters.Sound)
    (proper : s.table.view.paging.Proper) (prepared : s.Prepared) (posed : s.Posed) : s'.Posed where
  asking token q member := by
    refine move.formed ?_
    rcases move.tasks member with known | begun
    · exact posed.asking token q known
    · exact TableView.query_formed sound proper begun.2.1
  sent e member q sent := by
    refine move.formed ?_
    rcases move.sends prepared member sent with known | ⟨token, asking⟩ | built
    · exact posed.sent e known q sent
    · exact posed.asking token q asking
    · exact TableView.query_formed sound proper built

theorem Path.posed (path : Path key {} s) : s.Posed := by
  induction path with
  | refl => exact ⟨fun _ _ member => (nomatch member), fun _ member => (nomatch member)⟩
  | tail before move ih =>
    exact move.posed (Path.sound before) (Path.proper before) (Path.prepared before) ih

end Strand

namespace Application
open Strand

variable {w : Application} {key : Nat}

-- Every query with which a provider was asked for a page, or that was exported, is one that can be sent, and
-- so is the query that a table has at any time.
theorem queries_well_formed (arises : w.Arises key) :
    (∀ e ∈ w.journal, e.key? = some key → ∀ q, e.query? = some q → q.WellFormedFor (w.view key).plan) ∧
      ∀ q, (w.view key).query = .ok q → q.WellFormedFor (w.view key).plan := by
  obtain ⟨tasks, path⟩ := arises
  refine ⟨fun e member own q sent => ?_, fun q built => ?_⟩
  · have known : e ∈ (w.strand tasks key).events := List.mem_filter.mpr ⟨member, by simpa using own⟩
    exact (Path.posed path).sent e known q sent
  · exact TableView.query_formed (Path.sound path) (Path.proper path) built

-- A table with two filters, one of which is given a value that restricts nothing, is asked for its third page.
def searched : Application :=
  (opened { plan := { filters := .ok [{ id := "name" }, { id := "kind" }] } }).played 1
    [.table 0 (.setFilter "name" (.text "a")), .table 0 (.setFilter "kind" (.text " all ")),
      .table 0 (.setPage 2), .table 0 .refresh]

theorem searched_query : searched.Arises 0 ∧ ∃ e ∈ searched.journal, e.key? = some 0 ∧
    ∃ q, e.query? = some q ∧ q.page.value = (2, 1) ∧ q.filters.map Prod.fst = ["name"] ∧
      q.WellFormedFor (searched.view 0).plan := by
  have arises : searched.Arises 0 := ((opened_reached _).played 1 _).arises 0
  have asked : ((2, 1), ["name"]) ∈ (searched.journal.filter fun e => e.key? = some 0).filterMap
      fun e => e.query?.map fun q => (q.page.value, q.filters.map Prod.fst) := by decide +kernel
  obtain ⟨e, member, found⟩ := List.mem_filterMap.mp asked
  obtain ⟨known, own⟩ := List.mem_filter.mp member
  rw [decide_eq_true_eq] at own
  obtain ⟨q, sent, same⟩ := Option.map_eq_some_iff.mp found
  obtain ⟨page, names⟩ := Prod.mk.inj same
  exact ⟨arises, e, known, own, q, sent, page, names, (queries_well_formed arises).1 e known own q sent⟩

end Application

end PagedTable
