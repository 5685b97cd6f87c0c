import PagedTable.Proofs.FilterWrites
import PagedTable.Proofs.UnsetValues
import Mathlib.Data.Set.Basic

namespace PagedTable

def Value.strippedTexts (v : Value) : Set String :=
  {s | ∃ items t, v.items? = some items ∧ .text t ∈ items ∧ Text.strip t = s}

-- Collections of texts that hold the same texts when they are stripped; any other value only as it is.
def Value.Restates (v w : Value) : Prop :=
  v = w ∨ (∃ texts others : List String, v.items? = some (texts.map .text) ∧
    w.items? = some (others.map .text)) ∧ v.strippedTexts = w.strippedTexts

namespace FilterDef

-- The same filter, with a default that may be told otherwise.
structure Restates (d d' : FilterDef) : Prop where
  default : d.default.Restates d'.default
  others : d' = { d with default := d'.default }

variable {d d' : FilterDef} {v w : Value}

theorem stripAll_ok {items : List Value} {stripped : List String} (done : d.stripAll items = .ok stripped) :
    ∃ texts : List String, items = texts.map .text ∧ stripped = texts.map Text.strip := by
  induction items generalizing stripped with
  | nil =>
    cases done
    exact ⟨[], rfl, rfl⟩
  | cons item rest ih =>
    cases item with
    | text s =>
      rw [stripAll] at done
      cases others : d.stripAll rest with
      | error e => simp [others, Except.map] at done
      | ok stripped' =>
        obtain ⟨texts, rfl, rfl⟩ := ih others
        rw [others] at done
        cases done
        exact ⟨s :: texts, rfl, rfl⟩
    | _ => simp [stripAll, refuse] at done

theorem stripAll_map (d : FilterDef) (texts : List String) :
    d.stripAll (texts.map .text) = .ok (texts.map Text.strip) := by
  induction texts with
  | nil => rfl
  | cons s rest ih => simp [stripAll, ih, Except.map]

def several (texts : List String) : Value :=
  .tuple ((Text.sort (Text.distinct (texts.map Text.strip))).map .text)

theorem collect_map (d : FilterDef) (texts : List String) :
    d.collect (texts.map .text) = .ok (several texts) := by
  rw [collect, stripAll_map]
  rfl

theorem normalize_collection {texts : List String} (items : v.items? = some (texts.map .text)) :
    (d.normalize v).toOption = if d.isMultiple then some (several texts) else none := by
  have some : v ≠ .null := by
    rintro rfl
    cases items
  by_cases undated : d.kind ≠ .date ∧ d.kind ≠ .dateRange
  · rw [normalize_undated undated some]
    cases v <;> cases items <;> simp only [collect_map] <;> split <;> rfl
  · have single : d.isMultiple = false := by
      rw [← Bool.not_eq_true]
      exact fun multiple => undated (undated_of_isMultiple multiple)
    rw [not_and_or, not_not, not_not] at undated
    rcases undated with kind | kind <;> cases v <;> cases items <;>
      simp [normalize, kind, single, Value.isDate, refuse, Except.toOption]

theorem strippedTexts_map {texts : List String} (items : v.items? = some (texts.map .text)) :
    v.strippedTexts = {s | s ∈ texts.map Text.strip} := by
  ext s
  simp [Value.strippedTexts, items]

theorem several_eq_iff {texts others : List String} :
    several texts = several others ↔ ∀ s, s ∈ texts.map Text.strip ↔ s ∈ others.map Text.strip := by
  have injective : Function.Injective (List.map Value.text) :=
    List.map_injective_iff.mpr fun _ _ => Value.text.inj
  rw [several, several, Value.tuple.injEq, injective.eq_iff, Text.sort_distinct_eq_iff]

theorem normalize_restated (restates : v.Restates w) (d : FilterDef) :
    (d.normalize v).toOption = (d.normalize w).toOption := by
  rcases restates with rfl | ⟨⟨texts, others, one, two⟩, same⟩
  · rfl
  · rw [strippedTexts_map one, strippedTexts_map two] at same
    have alike : several texts = several others := several_eq_iff.mpr fun s => Set.ext_iff.mp same s
    rw [normalize_collection one, normalize_collection two, alike]

theorem stripAll_default (d : FilterDef) (u : Value) (items : List Value) :
    ({ d with default := u } : FilterDef).stripAll items = d.stripAll items := by
  induction items with
  | nil => rfl
  | cons item rest ih => cases item <;> simp [stripAll, refuse, ih]

theorem normalize_default (d : FilterDef) (u v : Value) :
    ({ d with default := u } : FilterDef).normalize v = d.normalize v := by
  have collect_default (items : List Value) :
      ({ d with default := u } : FilterDef).collect items = d.collect items := by
    rw [collect, collect, stripAll_default]
  unfold normalize
  simp only [collect_default]
  rfl

theorem Restates.normalize (restates : d.Restates d') (values : v.Restates w) :
    (d.normalize v).toOption = (d'.normalize w).toOption := by
  have kept : d'.normalize w = d.normalize w := by
    rw [restates.others]
    exact normalize_default d _ w
  rw [kept]
  exact normalize_restated values d

theorem Restates.initial (restates : d.Restates d') : d.initial = d'.initial := by
  rw [FilterDef.initial, FilterDef.initial, restates.normalize restates.default]

theorem Restates.fits (restates : d.Restates d') : d.fits = d'.fits := by
  have isSome {e : Except Fault Value} : e.isOk = e.toOption.isSome := by cases e <;> rfl
  rw [FilterDef.fits, FilterDef.fits, isSome, isSome, restates.normalize restates.default]

theorem Restates.id (restates : d.Restates d') : d'.id = d.id := by rw [restates.others]

theorem collection_several {items : List Value} (holds : v.items? = some items) (taken : d.normalize v = .ok w) :
    ∃ texts : List String, v.items? = some (texts.map .text) ∧ w = several texts := by
  have collected := normalize_items holds taken
  rw [collect] at collected
  cases stripped : d.stripAll items with
  | error e => simp [stripped, Except.map] at collected
  | ok texts =>
    obtain ⟨texts, rfl, rfl⟩ := stripAll_ok stripped
    rw [stripped] at collected
    cases collected
    exact ⟨texts, holds, rfl⟩

theorem collections_alike_iff {items items' : List Value} {v' w' : Value} (one : v.items? = some items)
    (two : v'.items? = some items') (taken : d.normalize v = .ok w) (taken' : d.normalize v' = .ok w') :
    w = w' ↔ v.strippedTexts = v'.strippedTexts := by
  obtain ⟨texts, holds, rfl⟩ := collection_several one taken
  obtain ⟨others, holds', rfl⟩ := collection_several two taken'
  rw [several_eq_iff, strippedTexts_map holds, strippedTexts_map holds', Set.ext_iff]
  rfl

theorem normalize_several (several : d.isMultiple = true) (taken : d.normalize v = .ok w) (some : v ≠ .null) :
    ∃ texts : List String, w = .tuple (texts.map .text) ∧ (∀ s ∈ texts, Text.strip s = s) ∧
      texts.Pairwise (· < ·) := by
  have given : w ≠ .null := by
    rintro rfl
    rw [normalize_undated (undated_of_isMultiple several) some, if_pos several] at taken
    split at taken <;> simp [collect, Except.map, refuse] at taken
    all_goals split at taken <;> cases taken
  cases normalize_normal taken with
  | null => exact absurd rfl given
  | range kind => exact absurd kind (undated_of_isMultiple several).2
  | date kind => exact absurd kind (undated_of_isMultiple several).1
  | text _ single => exact absurd (several.symm.trans single) (by decide)
  | texts _ stripped sorted apart =>
    refine ⟨_, rfl, stripped, ?_⟩
    apply (sorted.and apart).imp
    rintro s t ⟨precedes, other⟩
    exact Text.lt_of_precedes precedes other

end FilterDef

inductive FilterOperation.Restates : FilterOperation → FilterOperation → Prop where
  | set (id : String) {v w : Value} (values : v.Restates w) : Restates (.set id v) (.set id w)
  | addDef {d d' : FilterDef} (filters : d.Restates d') : Restates (.addDef d) (.addDef d')
  | reset : Restates .reset .reset

namespace FilterState

-- States to which the same operations lead, refused ones included, told otherwise.
inductive Restated : FilterState → FilterState → Prop where
  | declared {ds ds' : List FilterDef} {s t : FilterState} (filters : List.Forall₂ FilterDef.Restates ds ds')
      (made : ofDefs ds = .ok s) (made' : ofDefs ds' = .ok t) : Restated s t
  | performed {s t : FilterState} {op op' : FilterOperation} (before : Restated s t)
      (operations : op.Restates op') : Restated (s.perform op).1 (t.perform op').1

-- The same values for the same filters, whose defaults may be told otherwise.
structure Parallel (s t : FilterState) : Prop where
  defs : Entries.Paired FilterDef.Restates s.defs t.defs
  values : s.values = t.values

variable {s t u w : FilterState} {d d' : FilterDef} {ds ds' : List FilterDef} {op op' : FilterOperation}

theorem Parallel.stored (parallel : Parallel s t) (id : String) : s.stored id = t.stored id := by
  rw [FilterState.stored, FilterState.stored, parallel.values]

theorem defaults_restated (filters : List.Forall₂ FilterDef.Restates ds ds') : defaults ds = defaults ds' := by
  induction filters with
  | nil => rfl
  | @cons d d' ds ds' first rest ih =>
    unfold defaults restorable at ih ⊢
    cases fit : d'.fits with
    | false => simp [first.fits, fit]
    | true => simp [first.fits, fit, ih, first.id, first.initial]

theorem Parallel.found (parallel : Parallel s t) (id : String) :
    (Entries.get? id s.defs = none ∧ Entries.get? id t.defs = none) ∨
    ∃ d d', Entries.get? id s.defs = some d ∧ Entries.get? id t.defs = some d' ∧ d.Restates d' := by
  have related := parallel.defs.get? id
  generalize Entries.get? id s.defs = one at related ⊢
  generalize Entries.get? id t.defs = two at related ⊢
  cases related with
  | none => exact .inl ⟨rfl, rfl⟩
  | some filters => exact .inr ⟨_, _, rfl, rfl, filters⟩

theorem Parallel.declared (parallel : Parallel s t) (ids : List String) :
    List.Forall₂ FilterDef.Restates (s.declared ids) (t.declared ids) := by
  induction ids with
  | nil => exact .nil
  | cons id rest ih =>
    unfold FilterState.declared at ih ⊢
    obtain ⟨one, two⟩ | ⟨d, d', one, two, filters⟩ := parallel.found id
    · simpa only [List.filterMap_cons, one, two] using ih
    · simp only [List.filterMap_cons, one, two]
      exact .cons filters ih

theorem Parallel.written (parallel : Parallel s t) (operations : op.Restates op') :
    s.written op = t.written op' := by
  cases operations with
  | addDef filters => exact defaults_restated (.cons filters .nil)
  | reset =>
    apply defaults_restated
    exact List.rel_map (fun _ _ same => same.2) parallel.defs
  | @set id v w values =>
    obtain ⟨one, two⟩ | ⟨d, d', one, two, filters⟩ := parallel.found id
    · simp [FilterState.written, one, two]
    · have taken := filters.normalize values
      have dependents : d'.dependents = d.dependents := by rw [filters.others]
      have restored := defaults_restated (parallel.declared d.dependents)
      cases mine : d.normalize v <;> cases other : d'.normalize w <;>
        simp only [mine, other, Except.toOption, Option.some.injEq, reduceCtorEq] at taken
      · simp [FilterState.written, one, two, mine, other]
      · simp [FilterState.written, one, two, mine, other, taken, dependents, restored, parallel.stored id]

theorem Parallel.perform (parallel : Parallel s t) (operations : op.Restates op') :
    Parallel (s.perform op).1 (t.perform op').1 where
  values := by
    rw [perform_values, perform_values, parallel.written operations, parallel.values]
  defs := by
    cases operations with
    | addDef filters =>
      simp only [FilterState.perform, addDef_defs, filters.id]
      exact parallel.defs.put filters
    | set id values => simpa [FilterState.perform, set_defs] using parallel.defs
    | reset => simpa [FilterState.perform, reset_restoring.defs] using parallel.defs

theorem Parallel.addDefs (parallel : Parallel s t) (filters : List.Forall₂ FilterDef.Restates ds ds')
    (done : s.addDefs ds = (u, .ok ())) (done' : t.addDefs ds' = (w, .ok ())) : Parallel u w := by
  induction filters generalizing s t with
  | nil =>
    cases done
    cases done'
    exact parallel
  | @cons d d' ds ds' first rest ih =>
    have next := parallel.perform (.addDef first)
    unfold FilterState.addDefs at done done'
    split at done
    · rename_i added
      split at done'
      · rename_i added'
        simp only [FilterState.perform, added, added'] at next
        exact ih next done done'
      · cases done'
    · cases done

theorem Restated.parallel (restated : Restated s t) : Parallel s t := by
  induction restated with
  | @declared ds ds' s t filters made made' =>
    have empty : Parallel .empty .empty := ⟨.nil, rfl⟩
    unfold ofDefs at made made'
    split at made
    · rename_i added
      cases made
      split at made'
      · rename_i added'
        cases made'
        exact empty.addDefs filters added added'
      · cases made'
    · cases made
  | performed before operations ih => exact ih.perform operations

theorem Parallel.active (parallel : Parallel s t) :
    List.Forall₂ (fun a b => a.1.Restates b.1 ∧ a.2 = b.2) s.active t.active := by
  have alike (id : String) : s.isSet id = t.isSet id := by
    rw [isSet, isSet, parallel.stored id]
  have paired := parallel.defs
  unfold FilterState.active
  generalize s.defs = defs at paired
  generalize t.defs = defs' at paired
  induction paired with
  | nil => exact .nil
  | @cons e e' defs defs' first rest ih =>
    have own : e'.2.id = e.2.id := first.2.id
    cases set : t.isSet e.2.id with
    | true =>
      simp only [List.filter_cons, own, alike, set, if_true, List.map_cons]
      refine .cons ⟨first.2, parallel.stored e.2.id⟩ ?_
      simpa only [alike] using ih
    | false => simpa [alike, own, set] using ih

-- The query hangs on what the filters are called, not on their defaults.
theorem addFilter_restated (filters : d.Restates d') (before : Query.Filters) (v : Value) :
    Query.addFilter before d v = Query.addFilter before d' v := by
  rw [filters.others]
  rfl

theorem Parallel.build (parallel : Parallel s t) (paging : Paging) (sorting : Sorting)
    (statics : List (String × Value)) :
    Query.build s paging sorting statics = Query.build t paging sorting statics := by
  have asked : ∀ before, Query.addFilters before s.active = Query.addFilters before t.active := by
    have active := parallel.active
    generalize s.active = one at active
    generalize t.active = two at active
    induction active with
    | nil => exact fun _ => rfl
    | cons first rest ih =>
      intro before
      simp only [Query.addFilters, addFilter_restated first.1, first.2, ih]
  simp only [Query.build, asked]

-- Normal forms are canonical: they stay as they are. But for nothing, a filter of several texts keeps tuples of
-- stripped texts in order, and it keeps the same tuple for collections if and only if they hold the same
-- texts. So states to which the same was told otherwise ask for the same.
theorem normal_forms_canonical :
    (∀ (d : FilterDef) v w, d.normalize v = .ok w → d.normalize w = .ok w) ∧
    (∀ (d : FilterDef) v w, d.isMultiple = true → d.normalize v = .ok w →
      v = .null ∧ w = .null ∨ v ≠ .null ∧ ∃ texts : List String, w = .tuple (texts.map .text) ∧
        (∀ s ∈ texts, Text.strip s = s) ∧ texts.Pairwise (· < ·)) ∧
    (∀ (d : FilterDef) v v' w w', v.items?.isSome = true → v'.items?.isSome = true →
      d.normalize v = .ok w → d.normalize v' = .ok w' → (w = w' ↔ v.strippedTexts = v'.strippedTexts)) ∧
    (∀ s t, Restated s t → ∀ paging sorting statics,
      Query.build s paging sorting statics = Query.build t paging sorting statics) := by
  refine ⟨?_, ?_, ?_, ?_⟩
  · intro d v w taken
    exact (FilterDef.normalize_normal taken).fixed
  · intro d v w several taken
    by_cases null : v = .null
    · subst null
      cases taken
      exact .inl ⟨rfl, rfl⟩
    · exact .inr ⟨null, FilterDef.normalize_several several taken null⟩
  · intro d v v' w w' one two taken taken'
    obtain ⟨items, one⟩ := Option.isSome_iff_exists.mp one
    obtain ⟨items', two⟩ := Option.isSome_iff_exists.mp two
    exact FilterDef.collections_alike_iff one two taken taken'
  · intro s t restated
    exact restated.parallel.build

def offered (default status : Value) : FilterState where
  defs := [("status", { statusDef with default := default })]
  values := [("status", status)]

theorem offered_restated :
    ∃ s t, (offered (.list [.text " new"]) (.tuple [.text "new"])).set "status"
        (.list [.text "open", .text "open\u2003", .text "new"]) = (s, .ok true) ∧
      (offered (.set [.text "new"]) (.tuple [.text "new"])).set "status"
        (.set [.text "new ", .text "open"]) = (t, .ok true) ∧
      (s.stored "status") = .tuple [.text "new", .text "open"] ∧
      ∀ paging sorting statics, Query.build s paging sorting statics = Query.build t paging sorting statics := by
  obtain ⟨-, -, alike, asked⟩ := normal_forms_canonical
  have restates (texts others : List String) {w : Value}
      (one : statusDef.normalize (.list (texts.map .text)) = .ok w)
      (two : statusDef.normalize (.set (others.map .text)) = .ok w) :
      (Value.list (texts.map .text)).Restates (.set (others.map .text)) :=
    .inr ⟨⟨texts, others, rfl, rfl⟩, (alike statusDef _ _ _ _ rfl rfl one two).mp rfl⟩
  have default : (Value.list [.text " new"]).Restates (.set [.text "new"]) :=
    restates [" new"] ["new"] rfl rfl
  have told : (Value.list [.text "open", .text "open\u2003", .text "new"]).Restates
      (.set [.text "new ", .text "open"]) :=
    restates ["open", "open\u2003", "new"] ["new ", "open"] rfl rfl
  have filters : FilterDef.Restates { statusDef with default := .list [.text " new"] }
      { statusDef with default := .set [.text "new"] } := ⟨default, rfl⟩
  have start : Restated (offered (.list [.text " new"]) (.tuple [.text "new"]))
      (offered (.set [.text "new"]) (.tuple [.text "new"])) := .declared (.cons filters .nil) rfl rfl
  have set : (offered (.list [.text " new"]) (.tuple [.text "new"])).set "status"
      (.list [.text "open", .text "open\u2003", .text "new"]) =
      (offered (.list [.text " new"]) (.tuple [.text "new", .text "open"]), .ok true) :=
    set_other rfl rfl (by decide +kernel) rfl
  have set' : (offered (.set [.text "new"]) (.tuple [.text "new"])).set "status"
      (.set [.text "new ", .text "open"]) =
      (offered (.set [.text "new"]) (.tuple [.text "new", .text "open"]), .ok true) :=
    set_other rfl rfl (by decide +kernel) rfl
  have queries := asked _ _ (start.performed (.set "status" told))
  simp only [perform, set, set'] at queries
  exact ⟨_, _, set, set', rfl, queries⟩

-- Nothing is kept as it is, and not as a tuple.
theorem nothing_no_tuple : statusDef.isMultiple = true ∧ statusDef.normalize .null = .ok .null ∧
    ∀ texts : List String, Value.null ≠ .tuple (texts.map .text) := ⟨rfl, rfl, nofun⟩

end FilterState

end PagedTable
