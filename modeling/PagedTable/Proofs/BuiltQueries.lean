import PagedTable.Proofs.NormalForms
import PagedTable.Proofs.Outcomes
import PagedTable.Query.Build

namespace PagedTable

namespace Value

-- The end of a range as it is meant: open, or a date.
def IsEnd (v : Value) : Prop := v = .null ∨ v.isDate = true

def Dated (v : Value) : Prop := ∀ first last, v = .range first last → first.IsEnd ∧ last.IsEnd

variable {v : Value}

theorem dateText_date (dated : v.isDate = true) : ∃ s, v.dateText = .ok s ∧ v.restriction = .one s := by
  cases v with
  | date d => exact ⟨_, rfl, rfl⟩
  | moment m => exact ⟨_, rfl, rfl⟩
  | _ => cases dated

theorem dateText_undated (undated : ¬ v.IsEnd) : v ≠ .null ∧ v.dateText = .error .noAttribute := by
  cases v with
  | null => exact absurd (.inl rfl) undated
  | date | moment => exact absurd (.inr rfl) undated
  | _ => exact ⟨nofun, rfl⟩

end Value

-- The names that a filter writes to with its value, in this order, and what it writes.
def FilterDef.contributions (d : FilterDef) (v : Value) : List (String × Value) :=
  match d.kind, v with
  | .dateRange, .range first last =>
    [(d.startHttpId, first), (d.endHttpId, last)].filter fun c => !c.2.isNull
  | .dateRange, _ => []
  | _, _ => [(d.httpId, v)]

theorem FilterDef.contributions_single {d : FilterDef} (kind : d.kind ≠ .dateRange) (v : Value) :
    d.contributions v = [(d.httpId, v)] := by
  unfold contributions
  split
  · exact absurd (by assumption) kind
  · exact absurd (by assumption) kind
  · rfl

namespace FilterState

def contributions (s : FilterState) : List (String × Value) :=
  s.active.flatMap fun a => a.1.contributions a.2

-- Every value is what the filter would keep if it were given that value.
def InForm (s : FilterState) : Prop :=
  ∀ e ∈ s.defs, e.2.normalize (s.stored e.2.id) = .ok (s.stored e.2.id)

def Dated (s : FilterState) : Prop := ∀ a ∈ s.active, a.2.Dated

variable {s : FilterState}

theorem Sound.inForm (sound : s.Sound) : s.InForm := by
  intro e member
  obtain ⟨v, kept, normal⟩ := sound.valued e member
  have stored : s.stored e.2.id = v := by rw [sound.keyed e member, FilterState.stored, kept, Option.getD_some]
  rw [stored]
  exact normal.fixed

theorem InForm.active (inForm : s.InForm) : ∀ a ∈ s.active, a.1.Normal a.2 ∧ a.2 ≠ .null := by
  intro a member
  obtain ⟨e, kept, rfl⟩ := List.mem_map.mp member
  obtain ⟨known, isSet⟩ := List.mem_filter.mp kept
  refine ⟨FilterDef.normalize_normal (inForm e known), fun null => ?_⟩
  rw [FilterState.isSet, show s.stored e.2.id = .null from null] at isSet
  cases isSet

end FilterState

theorem Sorting.column_of_active {sorting : Sorting} {c : String} (active : sorting.active? = some c) :
    sorting.column = some c ∧ c ≠ "" := by
  unfold Sorting.active? at active
  split at active
  · split at active
    · cases active
    · cases active
      exact ⟨by assumption, by assumption⟩
  · cases active

namespace Query

variable {d : FilterDef} {v : Value} {key : String} {filters : Filters}

def encoded (c : String × Value) : String × Restriction := (c.1, c.2.restriction)

-- What is written for the static restrictions: those that restrict anything.
def staticWrites (statics : List (String × Value)) : Filters :=
  (statics.filter fun c => !c.2.unset).map fun c => (c.1, c.2.staticRestriction)

theorem addEnd_end (isEnd : v.IsEnd) :
    addEnd key v filters =
      .ok (Entries.putAll (([(key, v)].filter fun c => !c.2.isNull).map encoded) filters) := by
  rcases isEnd with rfl | dated
  · rfl
  · obtain ⟨s, text, restriction⟩ := Value.dateText_date dated
    cases v with
    | date | moment =>
      simp only [addEnd, text, Value.isNull, List.filter_cons, Bool.not_false, if_pos, List.filter_nil,
        List.map_cons, List.map_nil, encoded, restriction]
      rfl
    | _ => cases dated

theorem addEnd_undated (undated : ¬ v.IsEnd) : addEnd key v filters = .error .noAttribute := by
  obtain ⟨some, text⟩ := Value.dateText_undated undated
  unfold addEnd
  split
  · exact absurd rfl some
  · rw [text]
    rfl

theorem addFilter_range (kind : d.kind = .dateRange) (first last : Value) :
    addFilter filters d (.range first last) =
      addEnd d.startHttpId first filters >>= addEnd d.endHttpId last := by
  unfold addFilter
  rw [kind]

theorem addFilter_single (kind : d.kind ≠ .dateRange) :
    addFilter filters d v = .ok (Entries.put d.httpId v.restriction filters) := by
  unfold addFilter
  split
  · exact absurd (by assumption) kind
  · rfl

theorem addFilter_dated (normal : d.Normal v) (some : v ≠ .null) (dated : v.Dated) :
    addFilter filters d v = .ok (Entries.putAll ((d.contributions v).map encoded) filters) := by
  by_cases kind : d.kind = .dateRange
  · obtain ⟨first, last, rfl⟩ := normal.range_of_kind kind some
    obtain ⟨start, stop⟩ := dated first last rfl
    have both : d.contributions (.range first last) =
        [(d.startHttpId, first)].filter (fun c => !c.2.isNull) ++
          [(d.endHttpId, last)].filter fun c => !c.2.isNull := by
      simp only [FilterDef.contributions, kind, ← List.filter_append, List.singleton_append]
    rw [addFilter_range kind, addEnd_end start, both, List.map_append, Entries.putAll_append]
    exact addEnd_end stop
  · rw [addFilter_single kind, FilterDef.contributions_single kind]
    rfl

theorem addFilter_undated (normal : d.Normal v) (undated : ¬ v.Dated) :
    addFilter filters d v = .error .noAttribute := by
  unfold Value.Dated at undated
  push Not at undated
  obtain ⟨first, last, rfl, ends⟩ := undated
  rw [addFilter_range (normal.kind_of_range)]
  by_cases start : first.IsEnd
  · rw [addEnd_end start]
    exact addEnd_undated (ends start)
  · rw [addEnd_undated start]
    rfl

theorem addFilters_dated {actives : List (FilterDef × Value)}
    (fit : ∀ a ∈ actives, a.1.Normal a.2 ∧ a.2 ≠ .null) (dated : ∀ a ∈ actives, a.2.Dated)
    (filters : Filters) :
    addFilters filters actives =
      .ok (Entries.putAll ((actives.flatMap fun a => a.1.contributions a.2).map encoded) filters) := by
  induction actives generalizing filters with
  | nil => rfl
  | cons a rest ih =>
    obtain ⟨d, v⟩ := a
    obtain ⟨⟨normal, some⟩, fit⟩ := List.forall_mem_cons.mp fit
    obtain ⟨dated, rested⟩ := List.forall_mem_cons.mp dated
    have first : addFilter filters d v =
        .ok (Entries.putAll ((d.contributions v).map encoded) filters) :=
      addFilter_dated normal some dated
    rw [addFilters, first, List.flatMap_cons, List.map_append, Entries.putAll_append]
    exact ih fit rested _

theorem addFilters_undated {actives : List (FilterDef × Value)}
    (fit : ∀ a ∈ actives, a.1.Normal a.2 ∧ a.2 ≠ .null) (undated : ¬ ∀ a ∈ actives, a.2.Dated)
    (filters : Filters) : addFilters filters actives = .error .noAttribute := by
  induction actives generalizing filters with
  | nil => exact absurd nofun undated
  | cons a rest ih =>
    obtain ⟨d, v⟩ := a
    obtain ⟨⟨normal, some⟩, fit⟩ := List.forall_mem_cons.mp fit
    rw [addFilters]
    by_cases dated : v.Dated
    · rw [addFilter_dated normal some dated]
      exact ih fit (fun rested => undated (List.forall_mem_cons.mpr ⟨dated, rested⟩)) _
    · rw [addFilter_undated normal dated]
      rfl

theorem addStatics_eq (filters : Filters) (statics : List (String × Value)) :
    addStatics filters statics = Entries.putAll (staticWrites statics) filters := by
  induction statics generalizing filters with
  | nil => rfl
  | cons c rest ih =>
    obtain ⟨key, value⟩ := c
    unfold addStatics staticWrites
    cases unset : value.unset <;> simp only [List.filter_cons, unset] <;> exact ih _

def writes (state : FilterState) (statics : List (String × Value)) : Filters :=
  state.contributions.map encoded ++ staticWrites statics

theorem build_dated {state : FilterState} (inForm : state.InForm) (dated : state.Dated) (paging : Paging)
    (sorting : Sorting) (statics : List (String × Value)) :
    build state paging sorting statics = .ok {
      filters := Entries.putAll (writes state statics) []
      page := paging.index
      pageSize := paging.size
      sortField := sorting.active?
      sortDirection := sorting.active?.map fun _ => sorting.direction.text } := by
  rw [build, addFilters_dated inForm.active dated, writes, Entries.putAll_append, ← addStatics_eq]
  rfl

theorem build_undated {state : FilterState} (inForm : state.InForm) (undated : ¬ state.Dated)
    (paging : Paging) (sorting : Sorting) (statics : List (String × Value)) :
    build state paging sorting statics = .error .noAttribute := by
  rw [build, addFilters_undated inForm.active undated]
  rfl

-- A query that asks for the page, in the order, with the restrictions of a state: the static ones
-- first of all, then of each name the one that is written last.
structure Renders (q : Query) (state : FilterState) (paging : Paging) (sorting : Sorting)
    (statics : List (String × Value)) : Prop where
  distinct : (q.filters.map fun f => f.1).Nodup
  restricted : ∀ key, Entries.has key q.filters = true ↔
    (∃ v, (key, v) ∈ statics ∧ v.unset = false) ∨
      ∃ a ∈ state.active, ∃ v, (key, v) ∈ a.1.contributions a.2
  static : ∀ key v, (key, v) ∈ statics → v.unset = false →
    Entries.get? key q.filters = some v.staticRestriction
  user : ∀ older key v newer, state.contributions = older ++ (key, v) :: newer →
    key ∉ newer.map (fun c => c.1) → (∀ w, (key, w) ∈ statics → w.unset = true) →
      Entries.get? key q.filters = some v.restriction
  page : q.page = paging.index
  pageSize : q.pageSize = paging.size
  sorted : sorting.isActive = true →
    q.sortField = sorting.column ∧ q.sortDirection = some sorting.direction.text
  unsorted : sorting.isActive = false → q.sortField = none ∧ q.sortDirection = none

theorem mem_staticWrites {statics : List (String × Value)} :
    key ∈ (staticWrites statics).map (fun f => f.1) ↔ ∃ v, (key, v) ∈ statics ∧ v.unset = false := by
  simp [staticWrites, and_comm]

theorem mem_contributions {state : FilterState} :
    key ∈ (state.contributions.map encoded).map (fun f => f.1) ↔
      ∃ a ∈ state.active, ∃ v, (key, v) ∈ a.1.contributions a.2 := by
  constructor
  · simp only [FilterState.contributions, List.mem_map, List.mem_flatMap]
    rintro ⟨-, ⟨c, ⟨a, active, member⟩, rfl⟩, rfl⟩
    exact ⟨a, active, c.2, member⟩
  · rintro ⟨a, active, v, member⟩
    have contributed : (key, v) ∈ state.contributions := List.mem_flatMap.mpr ⟨a, active, member⟩
    exact List.mem_map_of_mem (List.mem_map_of_mem (f := encoded) contributed)

theorem restricted_writes (state : FilterState) (statics : List (String × Value)) (key : String) :
    Entries.has key (Entries.putAll (writes state statics) []) = true ↔
      (∃ v, (key, v) ∈ statics ∧ v.unset = false) ∨
        ∃ a ∈ state.active, ∃ v, (key, v) ∈ a.1.contributions a.2 := by
  have bare : Entries.has key ([] : Filters) ≠ true := nofun
  rw [Entries.has_putAll, or_iff_left bare, writes, List.map_append, List.mem_append, or_comm,
    mem_staticWrites, mem_contributions]

theorem static_writes (state : FilterState) {statics : List (String × Value)}
    (apart : (statics.map fun c => c.1).Nodup) (static : (key, v) ∈ statics) (set : v.unset = false) :
    Entries.get? key (Entries.putAll (writes state statics) []) = some v.staticRestriction := by
  have distinct : ((staticWrites statics).map fun f => f.1).Nodup := by
    rw [staticWrites, List.map_map]
    exact apart.sublist (List.filter_sublist.map _)
  have member : (key, v.staticRestriction) ∈ staticWrites statics :=
    List.mem_map.mpr ⟨(key, v), List.mem_filter.mpr ⟨static, by simp [set]⟩, rfl⟩
  rw [writes, Entries.putAll_append]
  exact Entries.get?_putAll_mem distinct member _

theorem user_writes {state : FilterState} {statics older newer : List (String × Value)}
    (split : state.contributions = older ++ (key, v) :: newer) (last : key ∉ newer.map fun c => c.1)
    (free : ∀ w, (key, w) ∈ statics → w.unset = true) :
    Entries.get? key (Entries.putAll (writes state statics) []) = some v.restriction := by
  have after : key ∉ (newer.map encoded ++ staticWrites statics).map fun f => f.1 := by
    rw [List.map_append, List.mem_append, mem_staticWrites, List.map_map]
    rintro (later | ⟨w, static, set⟩)
    · exact last later
    · rw [free w static] at set
      cases set
  have ordered : writes state statics =
      older.map encoded ++ (key, v.restriction) :: (newer.map encoded ++ staticWrites statics) := by
    rw [writes, split, List.map_append, List.append_assoc]
    rfl
  rw [ordered]
  exact Entries.get?_putAll_last after _

-- A query is built where the ends of the ranges in force are dates, and it asks for what the state
-- stands for.
theorem build_exact {state : FilterState} (inForm : state.InForm) {statics : List (String × Value)}
    (apart : (statics.map fun c => c.1).Nodup) (paging : Paging) (sorting : Sorting) :
    ((∃ q, build state paging sorting statics = .ok q) ↔ state.Dated) ∧
      ∀ q, build state paging sorting statics = .ok q → q.Renders state paging sorting statics := by
  by_cases dated : state.Dated
  · have built := build_dated inForm dated paging sorting statics
    refine ⟨⟨fun _ => dated, fun _ => ⟨_, built⟩⟩, fun q done => ?_⟩
    rw [built] at done
    cases done
    exact {
      distinct := Entries.nodup_putAll .nil
      restricted := restricted_writes state statics
      static := fun key v static set => static_writes state apart static set
      user := fun older key v newer split last free => user_writes split last free
      page := rfl
      pageSize := rfl
      sorted := fun active => by
        obtain ⟨c, sorted⟩ := Option.isSome_iff_exists.mp active
        exact ⟨sorted.trans (Sorting.column_of_active sorted).1.symm, by simp only [sorted, Option.map_some]⟩
      unsorted := fun inactive => by
        have unsorted := Option.isSome_eq_false_iff.mp inactive
        rw [Option.isNone_iff_eq_none] at unsorted
        exact ⟨unsorted, by simp only [unsorted, Option.map_none]⟩ }
  · have refused := build_undated inForm dated paging sorting statics
    refine ⟨⟨fun ⟨q, done⟩ => ?_, fun ends => absurd ends dated⟩, fun q done => ?_⟩ <;>
      rw [refused] at done <;> cases done

-- A filter by status that shares its name with the start of a period, and a period whose end shares
-- its name with a static restriction.
def shared : FilterState where
  defs := [("status", { id := "status", httpId := "From" }),
    ("period", { id := "period", kind := .dateRange, startHttpId := "From", endHttpId := "Until" })]
  values := [("status", .text "open"),
    ("period", .range (.date ⟨2024, 5, 1⟩) (.date ⟨2024, 5, 31⟩))]

theorem build_shared :
    shared.InForm ∧ (([("Until", .bool true), ("From", .null)] : List (String × Value)).map
      fun c => c.1).Nodup ∧ shared.Dated ∧
      ∃ q, build shared {} {} [("Until", .bool true), ("From", .null)] = .ok q ∧
        Entries.get? "From" q.filters = some (.one "2024-05-01") ∧
        Entries.get? "Until" q.filters = some (.one "true") := by
  have inForm : shared.InForm := List.forall_mem_cons.mpr ⟨rfl, List.forall_mem_cons.mpr ⟨rfl, nofun⟩⟩
  have apart : (([("Until", .bool true), ("From", .null)] : List (String × Value)).map
      fun c => c.1).Nodup := by decide
  have dated : shared.Dated := by
    refine List.forall_mem_cons.mpr ⟨nofun, List.forall_mem_cons.mpr ⟨fun first last ends => ?_, nofun⟩⟩
    cases ends
    exact ⟨.inr rfl, .inr rfl⟩
  obtain ⟨builds, rendered⟩ := build_exact inForm apart {} {}
  obtain ⟨q, built⟩ := builds.mpr dated
  have renders := rendered q built
  refine ⟨inForm, apart, dated, q, built, ?_, ?_⟩
  · exact renders.user [("From", .text "open")] "From" (.date ⟨2024, 5, 1⟩)
      [("Until", .date ⟨2024, 5, 31⟩)] rfl (by decide) (by simp [Value.unset])
  · exact renders.static "Until" (.bool true) (by simp) rfl

-- Where filters were declared, set and restored, every filter has a value that it would keep as it is,
-- and a query is built unless a range in force has an end that is no date.
theorem made_builds {s : FilterState} (made : s.Made) :
    (∀ id d, Entries.get? id s.defs = some d →
      ∃ v, Entries.get? id s.values = some v ∧ d.normalize v = .ok v) ∧
    ∀ paging sorting statics,
      (s.Dated → ∃ q, build s paging sorting statics = .ok q) ∧
      (¬ s.Dated → build s paging sorting statics = .error .noAttribute) := by
  have sound := made.sound
  refine ⟨fun id d found => ?_, fun paging sorting statics => ⟨fun dated => ?_, fun undated => ?_⟩⟩
  · obtain ⟨v, kept, normal⟩ := sound.valued _ (Entries.mem_of_get? found)
    exact ⟨v, kept, normal.fixed⟩
  · exact ⟨_, build_dated sound.inForm dated paging sorting statics⟩
  · exact build_undated sound.inForm undated paging sorting statics

def period : FilterDef := { id := "period", kind := .dateRange }

def within (range : Value) : FilterState where
  defs := [("period", period)]
  values := [("period", range)]

theorem within_made {first last : Value} (restricts : (Value.range first last).unset = false) :
    (within (.range first last)).Made := by
  have texts : FilterState.Made ⟨[("period", { id := "period" })], [("period", .null)]⟩ :=
    .declared (show FilterState.ofDefs [{ id := "period" }] = .ok _ from rfl)
  have replaced : (within .null).Made := texts.added (d := period) rfl
  have none : (within .null).stored "period" = .null := rfl
  have changes : ((within .null).stored "period").effective.same
      (Value.range first last).effective = false := by
    rw [none, Value.effective, Value.effective, restricts]
    simp [Value.unset, Value.same]
  have taken : period.normalize (.range first last) = .ok (.range first last) := rfl
  have set : (within .null).set "period" (.range first last) = (within (.range first last), .ok true) := by
    have found : Entries.get? "period" (within .null).defs = some period := rfl
    simp only [FilterState.set, found, taken, changes]
    rfl
  exact replaced.set set

theorem within_builds :
    (within (.range (.date ⟨2024, 5, 1⟩) .null)).Made ∧ (within (.range (.date ⟨2024, 5, 1⟩) .null)).Dated ∧
      (∃ v, Entries.get? "period" (within (.range (.date ⟨2024, 5, 1⟩) .null)).values = some v ∧
        period.normalize v = .ok v) ∧
      ∃ q, build (within (.range (.date ⟨2024, 5, 1⟩) .null)) {} {} [] = .ok q := by
  have made : (within (.range (.date ⟨2024, 5, 1⟩) .null)).Made := within_made rfl
  have dated : (within (.range (.date ⟨2024, 5, 1⟩) .null)).Dated := by
    refine List.forall_mem_cons.mpr ⟨fun first last ends => ?_, nofun⟩
    cases ends
    exact ⟨.inr rfl, .inl rfl⟩
  obtain ⟨fixed, builds⟩ := made_builds made
  exact ⟨made, dated, fixed "period" period rfl, (builds {} {} []).1 dated⟩

-- A range takes a text for its end, and no query is built of it.
theorem within_text_refused : (within (.range (.text "may") .null)).Made ∧
    build (within (.range (.text "may") .null)) {} {} [] = .error .noAttribute :=
  ⟨within_made rfl, rfl⟩

end Query

end PagedTable
