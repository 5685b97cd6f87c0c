import PagedTable.Proofs.BuiltQueries
import PagedTable.Proofs.EqualMaps

namespace PagedTable

namespace Restriction

def texts : Restriction → List String
  | .one s => [s]
  | .many texts => texts
  | .other _ => []

def joined (r : Restriction) : String := String.intercalate "|" r.texts

variable {r s : Restriction}

theorem parameter_joined (legible : r.texts ≠ []) : r.parameter = .ok (.text r.joined) := by
  cases r with
  | one s => simp [parameter, joined, texts]
  | many texts => rfl
  | other v => exact absurd rfl legible

-- Texts without a bar are told apart when they are joined with bars.
theorem texts_of_joined (here : r.texts ≠ []) (there : s.texts ≠ []) (same : r.joined = s.joined)
    (bare : ∀ t ∈ r.texts ++ s.texts, '|' ∉ t.toList) : r.texts = s.texts := by
  have split {texts : List String} (some : texts ≠ []) (bare : ∀ t ∈ texts, '|' ∉ t.toList) :
      (String.intercalate "|" texts).toList.splitOn '|' = texts.map String.toList := by
    rw [String.toList_intercalate]
    exact List.splitOn_intercalate _ (by simpa using bare) (by simpa using some)
  obtain ⟨first, second⟩ := List.forall_mem_append.mp bare
  have chars : r.texts.map String.toList = s.texts.map String.toList := by
    rw [← split here first, ← split there second]
    exact congrArg (fun joined => joined.toList.splitOn '|') same
  exact List.map_injective_iff.mpr (fun _ _ => String.toList_inj.mp) chars

end Restriction

namespace Number

variable {a b : Number} {m n : Int}

theorem value_whole (whole : a.whole? = some m) : a.value = (m, 1) := by
  cases a with
  | int n =>
    cases whole
    rfl
  | real x => cases whole
  | truth b =>
    cases whole
    rfl

theorem same_whole (one : a.whole? = some m) (two : b.whole? = some n) : a.same b = decide (m = n) := by
  rw [same, value_whole one, value_whole two]
  simp [beq_eq_decide]

end Number

namespace Value

variable {v : Value}

theorem restriction_texts (set : v.unset = false) : v.restriction.texts ≠ [] := by
  have collected {items : List Value} (some : items.all isAllKey = false) :
      (Text.sort (items.map plain)) ≠ [] := by
    intro none
    have empty : items.length = 0 := by
      rw [← List.length_map (f := plain), ← (Text.sort_perm _).length_eq, none, List.length_nil]
    rw [List.length_eq_zero_iff.mp empty] at some
    cases some
  cases v with
  | list | tuple | set => exact collected set
  | _ => exact List.cons_ne_nil _ _

theorem staticRestriction_texts (set : v.unset = false) : v.staticRestriction.texts ≠ [] := by
  unfold staticRestriction
  split
  · exact List.cons_ne_nil _ _
  · exact restriction_texts set

theorem same_map_text {xs ys : Fields} (distinct : (xs.map fun f => f.1).Nodup)
    (same : (Value.map xs).same (.map ys) = true) (key s : String) :
    Entries.get? key xs = some (.text s) ↔ Entries.get? key ys = some (.text s) := by
  obtain ⟨keys, values⟩ := same_map distinct same key
  cases here : Entries.get? key xs with
  | none => simp [keys.mp here]
  | some v =>
    cases there : Entries.get? key ys with
    | none => simp [keys.mpr there] at here
    | some w =>
      have equal := values v w here there
      cases v <;> cases w <;> simp [Value.same] at equal <;> simp [equal]

end Value

namespace Query

-- Filters of a query that a REST call can pass on: each name once, with at least one text.
structure Legible (filters : Filters) : Prop where
  distinct : (filters.map fun f => f.1).Nodup
  texts : ∀ f ∈ filters, f.2.texts ≠ []

variable {p q : Query} {filters added : Filters} {key : String}

theorem Legible.put {r : Restriction} (legible : Legible filters) (some : r.texts ≠ []) :
    Legible (Entries.put key r filters) where
  distinct := Entries.nodup_put legible.distinct
  texts f member := by
    rcases Entries.mem_put member with rfl | kept
    · exact some
    · exact legible.texts f kept

theorem Legible.addEnd {v : Value} (legible : Legible filters)
    (done : Query.addEnd key v filters = .ok added) : Legible added := by
  unfold Query.addEnd at done
  split at done
  · cases done
    exact legible
  · cases text : v.dateText with
    | error e => simp [text, Except.map] at done
    | ok s =>
      rw [text] at done
      cases done
      exact legible.put (List.cons_ne_nil _ _)

theorem Legible.addFilter {d : FilterDef} {v : Value} (legible : Legible filters)
    (set : v.unset = false) (done : Query.addFilter filters d v = .ok added) : Legible added := by
  unfold Query.addFilter at done
  split at done
  · split at done
    · obtain ⟨between, first, last⟩ := Act.bind_ok done
      exact (legible.addEnd first).addEnd last
    · cases done
  · cases done
    exact legible.put (Value.restriction_texts set)

theorem Legible.addFilters {actives : List (FilterDef × Value)} (legible : Legible filters)
    (set : ∀ a ∈ actives, a.2.unset = false) (done : Query.addFilters filters actives = .ok added) :
    Legible added := by
  induction actives generalizing filters with
  | nil =>
    cases done
    exact legible
  | cons a rest ih =>
    obtain ⟨first, set⟩ := List.forall_mem_cons.mp set
    obtain ⟨between, one, others⟩ := Act.bind_ok done
    exact ih (legible.addFilter first one) set others

theorem Legible.addStatics {statics : List (String × Value)} (legible : Legible filters) :
    Legible (Query.addStatics filters statics) := by
  induction statics generalizing filters with
  | nil => exact legible
  | cons c rest ih =>
    unfold Query.addStatics
    split
    · exact ih legible
    · rename_i set
      exact ih (legible.put (Value.staticRestriction_texts (by simpa using set)))

theorem build_legible {state : FilterState} {paging : Paging} {sorting : Sorting}
    {statics : List (String × Value)} (done : build state paging sorting statics = .ok q) :
    Legible q.filters := by
  obtain ⟨filters, added, done⟩ := Act.bind_ok done
  cases done
  have set : ∀ a ∈ state.active, a.2.unset = false := by
    intro a member
    obtain ⟨e, kept, rfl⟩ := List.mem_map.mp member
    simpa [FilterState.isSet] using (List.mem_filter.mp kept).2
  have empty : Legible [] := ⟨.nil, fun f member => absurd member List.not_mem_nil⟩
  exact (empty.addFilters set added).addStatics

def Built (q : Query) : Prop :=
  ∃ state index size paging sorting statics,
    Paging.make index size = .ok paging ∧ build state paging sorting statics = .ok q

structure Formed (q : Query) : Prop where
  legible : Legible q.filters
  positive : Number.less 0 q.pageSize = true
  ordered : q.sortField = none ∧ q.sortDirection = none ∨
    ∃ (column : String) (direction : Direction), column ≠ "" ∧ q.sortField = some column ∧
      q.sortDirection = some direction.text

theorem Built.formed (built : q.Built) : q.Formed := by
  obtain ⟨state, index, size, paging, sorting, statics, accepted, done⟩ := built
  have legible := build_legible done
  obtain ⟨filters, added, done⟩ := Act.bind_ok done
  cases done
  refine ⟨legible, ?_, ?_⟩
  · obtain ⟨index, -, accepted⟩ := Act.bind_ok accepted
    obtain ⟨size, checked, accepted⟩ := Act.bind_ok accepted
    cases accepted
    unfold Paging.checkSize at checked
    split at checked
    · cases checked
    · rename_i positive
      cases checked
      simpa [Number.atMost] using positive
  · cases active : sorting.active? with
    | none => exact .inl ⟨rfl, rfl⟩
    | some column =>
      exact .inr ⟨column, sorting.direction, (Sorting.column_of_active active).2, rfl, rfl⟩

theorem parameters_legible (legible : Legible filters) :
    parameters filters = .ok (filters.map fun f => (f.1, .text f.2.joined)) := by
  have every := legible.texts
  clear legible
  induction filters with
  | nil => rfl
  | cons f rest ih =>
    obtain ⟨first, others⟩ := List.forall_mem_cons.mp every
    rw [parameters, Restriction.parameter_joined first, ih others]
    rfl

structure Written (q : Query) (fields : Fields) : Prop where
  distinct : (fields.map fun f => f.1).Nodup
  limit : Entries.get? "Limit" fields = some (.number q.pageSize)
  skip : ∃ n, q.skip = .ok n ∧ Entries.get? "Skip" fields = some (.number n)
  sorted : ∀ s, q.sortParameter? = some s → Entries.get? "SortFields" fields = some (.text s)
  filter : ∀ key, key ≠ "Skip" → key ≠ "Limit" → (key = "SortFields" → q.sortParameter? = none) →
    Entries.get? key fields = (Entries.get? key q.filters).map fun r => .text r.joined

theorem Formed.written {fields : Fields} (formed : q.Formed) (done : q.httpParams = .ok fields) :
    q.Written fields := by
  obtain ⟨filters, told, done⟩ := Act.bind_ok done
  obtain ⟨n, skipped, done⟩ := Act.bind_ok done
  rw [parameters_legible formed.legible] at told
  cases told
  let paged : Fields := Entries.put "Limit" (.number q.pageSize) (Entries.put "Skip" (.number n)
    (q.filters.map fun f => (f.1, .text f.2.joined)))
  have distinct : (paged.map fun f => f.1).Nodup := by
    refine Entries.nodup_put (Entries.nodup_put ?_)
    rw [List.map_map]
    exact formed.legible.distinct
  have named {key : String} (skip : key ≠ "Skip") (limit : key ≠ "Limit") :
      Entries.get? key paged = (Entries.get? key q.filters).map fun r => .text r.joined := by
    rw [Entries.get?_put_other limit, Entries.get?_put_other skip]
    exact Entries.get?_map (fun r : Restriction => Value.text r.joined) _
  cases sorted : q.sortParameter? with
  | none =>
    simp only [sorted] at done
    cases done
    refine ⟨distinct, Entries.get?_put_same .., ⟨n, skipped, ?_⟩, ?_, fun key skip limit _ => named skip limit⟩
    · exact (Entries.get?_put_other (by decide) ..).trans (Entries.get?_put_same ..)
    · rw [sorted]
      exact nofun
  | some s =>
    simp only [sorted] at done
    cases done
    refine ⟨Entries.nodup_put distinct, ?_, ⟨n, skipped, ?_⟩, ?_, fun key skip limit other => ?_⟩
    · exact (Entries.get?_put_other (by decide) ..).trans (Entries.get?_put_same ..)
    · exact (Entries.get?_put_other (by decide) ..).trans
        ((Entries.get?_put_other (by decide) ..).trans (Entries.get?_put_same ..))
    · intro t given
      rw [sorted] at given
      cases given
      exact Entries.get?_put_same ..
    · rw [sorted] at other
      exact (Entries.get?_put_other (fun sort => nomatch other sort) ..).trans (named skip limit)

def Whole (q : Query) : Prop := q.page.whole?.isSome ∧ q.pageSize.whole?.isSome

-- The order of the first query passes for something else in the second: for the opposite order, as its
-- column has a minus in front, or for a filter where there is no order.
def PassesFor (p q : Query) : Prop :=
  (∃ column, p.sortField = some ("-" ++ column) ∧ p.sortDirection = some "asc" ∧
    q.sortField = some column ∧ q.sortDirection = some "desc") ∨
  (q.sortField = none ∧ ∃ r, Entries.get? "SortFields" q.filters = some r ∧
    p.sortParameter? = some r.joined)

-- What two queries have in common when their parameters are equal.
structure Recovered (p q : Query) : Prop where
  pageSize : p.pageSize.same q.pageSize = true
  page : p.Whole → q.Whole → p.page.same q.page = true
  sorting : p.sortField = q.sortField ∧ p.sortDirection = q.sortDirection ∨ p.PassesFor q ∨ q.PassesFor p
  restrictions : ∀ key, key ≠ "Skip" → key ≠ "Limit" →
    (key = "SortFields" → p.sortField = none ∧ q.sortField = none) →
      (Entries.get? key p.filters = none ↔ Entries.get? key q.filters = none) ∧
      ∀ r s, Entries.get? key p.filters = some r → Entries.get? key q.filters = some s →
        r.texts = s.texts ∨ ∃ t ∈ r.texts ++ s.texts, '|' ∈ t.toList

theorem skip_whole {m n : Int} (page : q.page.whole? = some m) (size : q.pageSize.whole? = some n) :
    q.skip = .ok (.int (m * n)) := by
  rw [skip, Number.mul, page, size]

theorem Formed.unsorted (formed : q.Formed) : q.sortParameter? = none ↔ q.sortField = none := by
  unfold sortParameter? sortColumn?
  rcases formed.ordered with ⟨field, -⟩ | ⟨column, direction, some, field, -⟩
  · simp [field]
  · simp [field, some]

theorem Formed.sorted (formed : q.Formed) {s : String} (sorted : q.sortParameter? = some s) :
    ∃ column, q.sortField = some column ∧
      (q.sortDirection = some "asc" ∧ s = column ∨ q.sortDirection = some "desc" ∧ s = "-" ++ column) := by
  unfold sortParameter? sortColumn? at sorted
  rcases formed.ordered with ⟨field, -⟩ | ⟨column, direction, some, field, towards⟩
  · simp [field] at sorted
  · refine ⟨column, field, ?_⟩
    cases direction <;> simp [field, some, towards, Direction.text] at sorted ⊢ <;> exact sorted.symm

theorem Formed.page {m n : Number} (formed : q.Formed) (here : p.Whole) (there : q.Whole)
    (sizes : p.pageSize.same q.pageSize = true) (one : p.skip = .ok m) (two : q.skip = .ok n)
    (skips : m.same n = true) : p.page.same q.page = true := by
  obtain ⟨⟨i, first⟩, ⟨k, long⟩⟩ := here.imp Option.isSome_iff_exists.mp Option.isSome_iff_exists.mp
  obtain ⟨⟨j, second⟩, ⟨l, wide⟩⟩ := there.imp Option.isSome_iff_exists.mp Option.isSome_iff_exists.mp
  rw [skip_whole first long] at one
  rw [skip_whole second wide] at two
  cases one
  cases two
  rw [Number.same_whole long wide, decide_eq_true_eq] at sizes
  rw [Number.same_whole rfl rfl, decide_eq_true_eq, sizes] at skips
  rw [Number.same_whole first second, decide_eq_true_eq]
  have positive : l ≠ 0 := by
    have less := formed.positive
    rw [Number.less, Number.value_whole wide] at less
    have value : Number.value 0 = (0, 1) := rfl
    simp only [value, decide_eq_true_eq] at less
    omega
  exact Int.eq_of_mul_eq_mul_right positive skips

theorem Formed.alike (here : p.Formed) (there : q.Formed) (one : p.sortParameter? = none)
    (two : q.sortParameter? = none) : p.sortField = q.sortField ∧ p.sortDirection = q.sortDirection := by
  have first := here.unsorted.mp one
  have second := there.unsorted.mp two
  rcases here.ordered with ⟨-, unsorted⟩ | ⟨_, _, _, sorted, _⟩
  · rcases there.ordered with ⟨-, other⟩ | ⟨_, _, _, sorted, _⟩
    · exact ⟨first.trans second.symm, unsorted.trans other.symm⟩
    · cases second.symm.trans sorted
  · cases first.symm.trans sorted

theorem Formed.sorting {s : String} (here : p.Formed) (there : q.Formed)
    (one : p.sortParameter? = some s) (two : q.sortParameter? = some s) :
    p.sortField = q.sortField ∧ p.sortDirection = q.sortDirection ∨ p.PassesFor q ∨ q.PassesFor p := by
  obtain ⟨column, field, ⟨towards, rfl⟩ | ⟨towards, rfl⟩⟩ := here.sorted one <;>
    obtain ⟨other, sort, ⟨direction, same⟩ | ⟨direction, same⟩⟩ := there.sorted two
  · exact .inl ⟨by rw [field, sort, same], by rw [towards, direction]⟩
  · exact .inr (.inl (.inl ⟨other, by rw [field, same], towards, sort, direction⟩))
  · exact .inr (.inr (.inl ⟨column, by rw [sort, same], direction, field, towards⟩))
  · rw [String.append_right_inj] at same
    exact .inl ⟨by rw [field, sort, same], by rw [towards, direction]⟩

theorem Formed.passes {t : String} {fields : Fields} (there : q.Formed) (written : q.Written fields)
    (sorted : p.sortParameter? = some t) (unsorted : q.sortParameter? = none)
    (given : Entries.get? "SortFields" fields = some (.text t)) : p.PassesFor q := by
  rw [written.filter "SortFields" (by decide) (by decide) fun _ => unsorted] at given
  obtain ⟨r, restricted, told⟩ := Option.map_eq_some_iff.mp given
  cases told
  exact .inr ⟨there.unsorted.mp unsorted, r, restricted, sorted⟩

theorem recovered {a b : Fields} (here : p.Formed) (there : q.Formed) (one : p.Written a)
    (two : q.Written b) (same : (Value.map a).same (.map b) = true) : p.Recovered q := by
  have common := Value.same_map one.distinct same
  have texts := Value.same_map_text one.distinct same
  have sizes : p.pageSize.same q.pageSize = true := by
    simpa [Value.same] using (common "Limit").2 _ _ one.limit two.limit
  obtain ⟨m, skipped, first⟩ := one.skip
  obtain ⟨n, passed, second⟩ := two.skip
  have skips : m.same n = true := by
    simpa [Value.same] using (common "Skip").2 _ _ first second
  refine ⟨sizes, fun one two => there.page one two sizes skipped passed skips, ?_, ?_⟩
  · cases sorted : p.sortParameter? with
    | none =>
      cases ordered : q.sortParameter? with
      | none => exact .inl (here.alike there sorted ordered)
      | some t =>
        have given := (texts "SortFields" t).mpr (two.sorted t ordered)
        exact .inr (.inr (here.passes one ordered sorted given))
    | some s =>
      have given := (texts "SortFields" s).mp (one.sorted s sorted)
      cases ordered : q.sortParameter? with
      | none => exact .inr (.inl (there.passes two sorted ordered given))
      | some t =>
        rw [two.sorted t ordered] at given
        cases given
        exact here.sorting there sorted ordered
  · intro key skip limit unsorted
    have first := one.filter key skip limit fun sort => here.unsorted.mpr (unsorted sort).1
    have second := two.filter key skip limit fun sort => there.unsorted.mpr (unsorted sort).2
    have keys := (common key).1
    rw [first, second, Option.map_eq_none_iff, Option.map_eq_none_iff] at keys
    refine ⟨keys, fun r s found other => ?_⟩
    rw [found] at first
    have given := (texts key r.joined).mp first
    rw [second, other] at given
    have joined : s.joined = r.joined := Value.text.inj (Option.some.inj given)
    -- without a bar in them the texts can be told from what they are joined to
    by_cases bare : ∀ t ∈ r.texts ++ s.texts, '|' ∉ t.toList
    · exact .inl (Restriction.texts_of_joined (here.legible.texts _ (Entries.mem_of_get? found))
        (there.legible.texts _ (Entries.mem_of_get? other)) joined.symm bare)
    · push Not at bare
      exact .inr bare

theorem Formed.returns (formed : q.Formed) (whole : q.Whole) : ∃ fields, q.httpParams = .ok fields := by
  obtain ⟨⟨m, page⟩, ⟨n, size⟩⟩ := whole.imp Option.isSome_iff_exists.mp Option.isSome_iff_exists.mp
  rw [httpParams, parameters_legible formed.legible, skip_whole page size]
  exact ⟨_, rfl⟩

-- Queries with equal parameters have in common all that the parameters tell apart.
theorem parameters_recover (here : p.Built) (there : q.Built) :
    (p.Whole → ∃ a, p.httpParams = .ok a) ∧
      ∀ a b, p.httpParams = .ok a → q.httpParams = .ok b → (Value.map a).same (.map b) = true →
        p.Recovered q := by
  refine ⟨here.formed.returns, fun a b one two same => ?_⟩
  exact recovered here.formed there.formed (here.formed.written one) (there.formed.written two) same

def initial (ds : List FilterDef) (paging : Paging) (sorting : Sorting) : Except Fault Query := do
  let state ← FilterState.ofDefs ds
  build state paging sorting []

def Coincide (one two : Except Fault Query) (related : Query → Query → Prop) : Prop :=
  ∃ p q a b, one = .ok p ∧ two = .ok q ∧ p.Built ∧ q.Built ∧ related p q ∧
    p.httpParams = .ok a ∧ q.httpParams = .ok b ∧ (Value.map a).same (.map b) = true

theorem Coincide.initial {ds es : List FilterDef} {first second : Paging} {sorting order : Sorting}
    {a b : Fields} {related : Query → Query → Prop} (one : Query.initial ds first sorting = .ok p)
    (two : Query.initial es second order = .ok q)
    (accepted : Paging.make first.index first.size = .ok first)
    (taken : Paging.make second.index second.size = .ok second) (relation : related p q)
    (told : p.httpParams = .ok a) (written : q.httpParams = .ok b)
    (same : (Value.map a).same (.map b) = true) :
    Coincide (Query.initial ds first sorting) (Query.initial es second order) related := by
  obtain ⟨state, -, built⟩ := Act.bind_ok one
  obtain ⟨other, -, made⟩ := Act.bind_ok two
  exact ⟨p, q, a, b, one, two, ⟨state, _, _, first, sorting, [], accepted, built⟩,
    ⟨other, _, _, second, order, [], taken, made⟩, relation, told, written, same⟩

def tags (texts : List String) : FilterDef where
  id := "tags"
  kind := .dropdown
  multiple := true
  default := .list (texts.map .text)

def byName (direction : Direction) : Sorting := { column := some "name", direction }

-- One page and a half, as far as fractions tell, of one row and a half.
def fraction (units : Nat) : Paging where
  index := .real ⟨false, 3 * Nat.pow 2 51 + units, -52⟩
  size := .real ⟨false, 3 * Nat.pow 2 51, -52⟩

theorem tags_recovered : ∃ p q, p.Built ∧ q.Built ∧ p.Whole ∧ p.Recovered q ∧
    initial [tags ["b", "a"]] { index := .truth true } {} = .ok p ∧
    initial [tags ["a", "b", " a"]] { index := 1 } {} = .ok q := by
  have coincide : Coincide (initial [tags ["b", "a"]] { index := .truth true } {})
      (initial [tags ["a", "b", " a"]] { index := 1 } {}) (fun p _ => p.Whole) := by
    refine .initial rfl rfl rfl rfl ⟨rfl, rfl⟩ rfl rfl ?_
    decide +kernel
  obtain ⟨p, q, a, b, one, two, here, there, whole, told, written, same⟩ := coincide
  exact ⟨p, q, here, there, whole, (parameters_recover here there).2 a b told written same, one, two⟩

-- What the parameters do not tell: where a bar stands in a text, filters that are named as parameters of
-- paging and of sorting, a minus of its own in front of a column, and fractions of pages.
theorem parameters_coincide :
    Coincide (initial [tags ["a", "b"]] {} {}) (initial [tags ["a|b"]] {} {})
      (fun p q => Entries.get? "tags" p.filters = some (.many ["a", "b"]) ∧
        Entries.get? "tags" q.filters = some (.many ["a|b"])) ∧
    Coincide (initial [{ id := "Limit", default := .text "9" }] {} {}) (initial [] {} {})
      (fun p q => Entries.has "Limit" p.filters = true ∧ Entries.has "Limit" q.filters = false) ∧
    Coincide (initial [{ id := "Skip", default := .text "9" }] {} {}) (initial [] {} {})
      (fun p q => Entries.has "Skip" p.filters = true ∧ Entries.has "Skip" q.filters = false) ∧
    Coincide (initial [] {} { column := some "-name" }) (initial [] {} (byName .desc))
      (fun p q => p.sortField = some "-name" ∧ q.sortField = some "name") ∧
    Coincide (initial [] {} (byName .asc)) (initial [{ id := "SortFields", default := .text "name" }] {} {})
      (fun p q => p.sortField = some "name" ∧ q.sortField = none) ∧
    Coincide (initial [{ id := "SortFields", default := .text "id" }] {} (byName .asc))
      (initial [] {} (byName .asc))
      (fun p q => Entries.has "SortFields" p.filters = true ∧ Entries.has "SortFields" q.filters = false) ∧
    Coincide (initial [] (fraction 2) {}) (initial [] (fraction 3) {})
      (fun p q => p.page.same q.page = false) := by
  refine ⟨.initial rfl rfl rfl rfl ⟨rfl, rfl⟩ rfl rfl ?_, .initial rfl rfl rfl rfl ⟨rfl, rfl⟩ rfl rfl ?_,
    .initial rfl rfl rfl rfl ⟨rfl, rfl⟩ rfl rfl ?_, .initial rfl rfl rfl rfl ⟨rfl, rfl⟩ rfl rfl ?_,
    .initial rfl rfl rfl rfl ⟨rfl, rfl⟩ rfl rfl ?_, .initial rfl rfl rfl rfl ⟨rfl, rfl⟩ rfl rfl ?_,
    .initial rfl rfl rfl rfl rfl rfl rfl ?_⟩
  all_goals decide +kernel

end Query

end PagedTable
