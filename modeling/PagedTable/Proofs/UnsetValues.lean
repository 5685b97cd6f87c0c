import PagedTable.Proofs.DependentFilters
import PagedTable.Query.Build

namespace PagedTable

namespace FilterDef

variable {d : FilterDef} {v w : Value}

theorem stripAll_allKey {items : List Value} (unset : items.all Value.isAllKey = true) :
    d.stripAll items = .ok (items.map fun _ => allKey) := by
  induction items with
  | nil => rfl
  | cons item rest ih =>
    rw [List.all_cons, Bool.and_eq_true] at unset
    obtain ⟨first, others⟩ := unset
    cases item with
    | text s =>
      have same : s = allKey := by simpa [Value.isAllKey] using first
      rw [same, stripAll, ih others]
      rfl
    | _ => cases first

theorem collect_unset {items : List Value} (unset : items.all Value.isAllKey = true)
    (done : d.collect items = .ok w) : w.unset = true := by
  rw [collect, stripAll_allKey unset] at done
  cases done
  rw [Value.unset, List.all_eq_true]
  intro v member
  obtain ⟨s, kept, rfl⟩ := List.mem_map.mp member
  have given : s ∈ items.map fun _ => allKey := Text.mem_distinct.mp ((Text.sort_perm _).mem_iff.mp kept)
  obtain ⟨item, -, rfl⟩ := List.mem_map.mp given
  rfl

theorem collect_single (s : String) : d.collect [.text s] = .ok (.tuple [.text (Text.strip s)]) := rfl

theorem normalize_text {s : String} (taken : d.normalize (.text s) = .ok w) :
    w = if d.isMultiple then .tuple [.text (Text.strip s)] else .text (Text.strip s) := by
  by_cases undated : d.kind ≠ .date ∧ d.kind ≠ .dateRange
  · rw [normalize_undated undated (by simp)] at taken
    split at taken
    · rw [collect_single] at taken
      cases taken
      rw [if_pos (by assumption)]
    · cases taken
      rw [if_neg (by assumption)]
  · rw [not_and_or, not_not, not_not] at undated
    rcases undated with kind | kind <;> simp [normalize, kind, Value.isDate, refuse] at taken

theorem normalize_items {items : List Value} (several : v.items? = some items)
    (taken : d.normalize v = .ok w) : d.collect items = .ok w := by
  have some : v ≠ .null := by
    rintro rfl
    cases several
  by_cases undated : d.kind ≠ .date ∧ d.kind ≠ .dateRange
  · rw [normalize_undated undated some] at taken
    cases v <;> cases several <;> split at taken <;> first | exact taken | cases taken
  · rw [not_and_or, not_not, not_not] at undated
    rcases undated with kind | kind <;> cases v <;> cases several <;>
      simp [normalize, kind, Value.isDate, refuse] at taken

theorem normalize_range {first last : Value} (taken : d.normalize (.range first last) = .ok w) :
    w = .range first last := by
  by_cases undated : d.kind ≠ .date ∧ d.kind ≠ .dateRange
  · rw [normalize_undated undated (by simp)] at taken
    split at taken <;> cases taken
  · rw [not_and_or, not_not, not_not] at undated
    rcases undated with kind | kind
    · simp [normalize, kind, Value.isDate, refuse] at taken
    · simp only [normalize, kind, Except.ok.injEq] at taken
      exact taken.symm

theorem normalize_unset (unset : v.unset = true) (taken : d.normalize v = .ok w) :
    w.unset = true ↔ ¬ (d.isMultiple = true ∧ v = .text "") := by
  cases v with
  | null =>
    cases taken
    simp [Value.unset]
  | text s =>
    rw [Value.unset, Bool.or_eq_true, decide_eq_true_eq, decide_eq_true_eq] at unset
    rw [normalize_text taken]
    have stripped : Text.strip s = s := by
      rcases unset with rfl | rfl <;> rfl
    rw [stripped]
    cases several : d.isMultiple with
    | false => simp [Value.unset, unset]
    | true =>
      rcases unset with rfl | rfl <;> simp [Value.unset, Value.isAllKey, allKey]
  | range first last =>
    rw [normalize_range taken]
    simp [unset]
  | list items | tuple items | set items =>
    have collected := collect_unset unset (normalize_items rfl taken)
    simp [collected]
  | _ => cases unset

end FilterDef

namespace FilterState

def without (s : FilterState) (id : String) : FilterState := { s with defs := Entries.erase id s.defs }

-- A filter is in no list of what restricts, and the query is the one that would be asked for without it.
structure Absent (s : FilterState) (id : String) : Prop where
  inactive : ∀ a ∈ s.active, a.1.id ≠ id
  unlisted : Entries.get? id s.snapshot = none
  unasked : ∀ paging sorting statics,
    Query.build s paging sorting statics = Query.build (s.without id) paging sorting statics

variable {s t : FilterState} {d : FilterDef} {id : String} {v w : Value} {changed : Bool}

theorem Keyed.active_without (keyed : s.Keyed) (unset : (s.stored id).unset = true) :
    (s.without id).active = s.active := by
  change ((Entries.erase id s.defs).filter fun e => s.isSet e.2.id).map
    (fun e => (e.2, s.stored e.2.id)) = s.active
  unfold active Entries.erase
  rw [List.filter_filter]
  congr 1
  apply List.filter_congr
  intro e member
  by_cases own : e.1 = id
  · have same : e.2.id = id := (keyed.named e member).trans own
    simp [isSet, same, unset]
  · simp [own]

theorem Keyed.absent_iff (keyed : s.Keyed) (found : Entries.get? id s.defs = some d) :
    s.Absent id ↔ (s.stored id).unset = true := by
  have own := keyed.id_of_get? found
  constructor
  · intro absent
    by_contra set
    have isSet : s.isSet d.id = true := by
      rw [own, FilterState.isSet]
      simpa using set
    have active : (d, s.stored d.id) ∈ s.active :=
      List.mem_map.mpr ⟨(id, d), List.mem_filter.mpr ⟨Entries.mem_of_get? found, isSet⟩, rfl⟩
    exact absent.inactive _ active own
  · intro unset
    have inactive : ∀ a ∈ s.active, a.1.id ≠ id := by
      intro a member same
      obtain ⟨e, kept, rfl⟩ := List.mem_map.mp member
      have isSet := (List.mem_filter.mp kept).2
      rw [same, FilterState.isSet, unset] at isSet
      cases isSet
    refine ⟨inactive, ?_, ?_⟩
    · rw [Entries.get?_eq_none]
      intro listed
      obtain ⟨f, member, same⟩ := List.mem_map.mp listed
      obtain ⟨a, active, rfl⟩ := List.mem_map.mp member
      exact inactive a active same
    · intro paging sorting statics
      rw [Query.build, Query.build, keyed.active_without unset]

theorem Keyed.stored_set (keyed : s.Keyed) (found : Entries.get? id s.defs = some d)
    (done : s.set id v = (t, .ok changed)) (own : changed = true → id ∉ d.dependents) :
    d.normalize v = .ok (t.stored id) := by
  cases changed with
  | true =>
    apply (keyed.changed done).own d found
    rintro ⟨d', found', listed⟩
    rw [found] at found'
    cases found'
    exact own rfl listed
  | false =>
    have attempt := s.attempt id v
    rw [done] at attempt
    cases attempt with
    | setting settled =>
      cases settled with
      | same found' taken same =>
        rw [found] at found'
        cases found'
        rw [taken, stored_store]

-- A value that restricts nothing is kept as one that restricts nothing, unless it is the empty text and
-- the filter takes several. So a filter that is given such a value is absent, unless that is the case, or
-- it lists itself, its change takes it back to its default, and that restricts.
theorem unset_stays_unset (unset : v.unset = true) (taken : d.normalize v = .ok w) :
    (w.unset = true ↔ ¬ (d.isMultiple = true ∧ v = .text "")) ∧
    ∀ s id t changed, Keyed s → Entries.get? id s.defs = some d → s.set id v = (t, .ok changed) →
      ((changed = true → id ∉ d.dependents) → (t.Absent id ↔ ¬ (d.isMultiple = true ∧ v = .text ""))) ∧
      (changed = true → id ∈ d.dependents →
        ∃ u, d.normalize d.default = .ok u ∧ (t.Absent id ↔ u.unset = true)) := by
  refine ⟨FilterDef.normalize_unset unset taken, ?_⟩
  intro s id t changed keyed found done
  have defs : t.defs = s.defs := by
    rw [← set_defs s id v, done]
  have absent_iff : t.Absent id ↔ (t.stored id).unset = true :=
    (keyed.of_defs defs).absent_iff (defs ▸ found)
  constructor
  · intro own
    have kept := keyed.stored_set found done own
    rw [taken] at kept
    rw [absent_iff, ← Except.ok.inj kept]
    exact FilterDef.normalize_unset unset taken
  · rintro rfl listed
    obtain ⟨u, default, kept⟩ := (keyed.changed done).listed id d ⟨d, found, listed⟩ found
    exact ⟨u, default, by rw [absent_iff, kept]⟩

def statusDef : FilterDef := { id := "status", kind := .dropdown, multiple := true }

def chosen (status : Value) : FilterState where
  defs := [("status", statusDef)]
  values := [("status", status)]

theorem chosen_cleared : (Value.list [.text "all"]).unset = true ∧
    statusDef.normalize (.list [.text "all"]) = .ok (.tuple [.text "all"]) ∧
    (Value.tuple [.text "all"]).unset = true ∧ (chosen (.tuple [.text "open"])).Keyed ∧
    ∃ t, (chosen (.tuple [.text "open"])).set "status" (.list [.text "all"]) = (t, .ok true) ∧
      t.Absent "status" := by
  have unset : (Value.list [.text "all"]).unset = true := rfl
  have taken : statusDef.normalize (.list [.text "all"]) = .ok (.tuple [.text "all"]) := rfl
  have keyed : (chosen (.tuple [.text "open"])).Keyed := ⟨by decide, by decide⟩
  have done : (chosen (.tuple [.text "open"])).set "status" (.list [.text "all"]) =
      (chosen (.tuple [.text "all"]), .ok true) := set_other rfl rfl (by decide +kernel) rfl
  have plain : ¬ (statusDef.isMultiple = true ∧ Value.list [.text "all"] = .text "") := by simp
  obtain ⟨restricts, absent⟩ := unset_stays_unset unset taken
  obtain ⟨cleared, -⟩ := absent _ "status" _ _ keyed rfl done
  have unlisted : "status" ∉ statusDef.dependents := List.not_mem_nil
  exact ⟨unset, taken, restricts.mpr plain, keyed, _, done, (cleared fun _ => unlisted).mpr plain⟩

-- The empty text is kept as one of several, and restricts.
theorem chosen_empty_restricts : (Value.text "").unset = true ∧
    statusDef.normalize (.text "") = .ok (.tuple [.text ""]) ∧ (Value.tuple [.text ""]).unset = false ∧
    ∃ t, (chosen .null).set "status" (.text "") = (t, .ok true) ∧ t.isSet "status" = true :=
  ⟨rfl, rfl, rfl, chosen (.tuple [.text ""]), set_other rfl rfl (by decide +kernel) rfl, rfl⟩

end FilterState

end PagedTable
