import PagedTable.Proofs.AskedValues
import PagedTable.Proofs.FilterOperations
import PagedTable.Proofs.Instants

namespace PagedTable

namespace Value

-- The same value, or a moment at the same instant.
def Retold (v w : Value) : Prop :=
  v = w ∨ ∃ a b : Moment, v = .moment a ∧ w = .moment b ∧ a.same b = true

variable {v w : Value}

theorem Retold.refl (v : Value) : v.Retold v := .inl rfl

theorem Retold.same_moment {a b : Moment} (retold : (moment a).Retold (.moment b)) : a.same b = true := by
  rcases retold with equal | ⟨a', b', one, two, same⟩
  · cases equal
    exact a.same_refl
  · cases one
    cases two
    exact same

theorem isEnd_same (same : v.same w = true) : v.isEnd = w.isEnd := by
  cases v <;> cases w <;> simp_all [Value.same, isEnd, isNull, isDate]

theorem isNull_same (same : v.same w = true) : v.isNull = w.isNull := by
  cases v <;> cases w <;> simp_all [Value.same, isNull]

theorem retold_of_end (ended : w.isEnd = true) (same : v.same w = true) : v.Retold w := by
  cases w with
  | null => exact .inl (same_null.mp same)
  | date d =>
    cases v with
    | date d' =>
      rw [Value.same, beq_iff_eq] at same
      exact .inl (congrArg Value.date same)
    | _ => simp [Value.same] at same
  | moment m =>
    cases v with
    | moment m' => exact .inr ⟨m', m, rfl, rfl, by simpa [Value.same] using same⟩
    | _ => simp [Value.same] at same
  | _ => cases ended

theorem restriction_moment {a b : Moment} (one : a.IsReal) (two : b.IsReal) (same : a.same b = true) :
    (moment a).restriction = (moment b).restriction ↔ a.offset = b.offset := by
  have sent (m : Moment) : (moment m).restriction =
      .one (String.ofList (if m.offset.isSome then m.isoMillis else m.iso)) := rfl
  rw [sent, sent, Restriction.one.injEq, String.ofList_inj]
  constructor
  · intro texts
    cases zone : a.offset <;> cases zone' : b.offset
    · rfl
    · simp [Moment.same, zone, zone'] at same
    · simp [Moment.same, zone, zone'] at same
    · rw [← zone, ← zone', ← Moment.isoMillis_eq_iff one two same]
      simpa [zone, zone'] using texts
  · intro offsets
    rw [(Moment.same_eq_iff one two same).mpr offsets]

theorem unset_same (same : v.effective.same w.effective = true) : v.unset = w.unset := by
  have bare (u : Value) : u.effective = .null ↔ u.unset = true := by
    unfold effective
    split
    · simp [*]
    · rename_i set
      constructor
      · rintro rfl
        exact absurd rfl set
      · intro unset
        exact absurd unset set
  rw [Bool.eq_iff_iff, ← bare, ← bare]
  constructor
  · intro none
    rw [none] at same
    exact null_same.mp same
  · intro none
    rw [none] at same
    exact same_null.mp same

theorem same_of_effective (same : v.effective.same w.effective = true) (set : w.unset = false) :
    v.same w = true := by
  have both := unset_same same
  rw [set] at both
  simpa [effective, both, set] using same

end Value

namespace FilterDef

variable {d : FilterDef} {v w : Value}

theorem Normal.retold (normal : d.Normal w) (single : d.kind ≠ .dateRange) (same : v.same w = true) :
    v.Retold w := by
  cases normal with
  | null => exact .inl (Value.same_null.mp same)
  | range kind => exact absurd kind single
  | date kind dated => exact Value.retold_of_end (by simp [Value.isEnd, dated]) same
  | texts several stripped sorted apart => exact .inl (Value.same_texts.mp same)
  | text undated one stripped => exact .inl (Value.same_text.mp same)

theorem refusal?_same (normal : d.Normal w) (same : v.same w = true) : d.refusal? v = d.refusal? w := by
  by_cases kind : d.kind = .dateRange
  · cases normal with
    | null => rw [Value.same_null.mp same]
    | range _ first last =>
      cases v with
      | range f l =>
        simp only [Value.same, Bool.and_eq_true] at same
        simp only [refusal?, kind, Value.isEnd_same same.1, Value.isEnd_same same.2]
      | _ => simp [Value.same] at same
    | date other => cases kind.symm.trans other
    | texts several => exact absurd kind (undated_of_isMultiple several).2
    | text undated => exact absurd kind undated.2
  · rw [refusal?_single kind, refusal?_single kind]

theorem contributions_retold (normal : d.Normal w) (set : w.unset = false) (fit : d.refusal? w = none)
    (same : v.same w = true) : Entries.Paired Value.Retold (d.contributions v) (d.contributions w) := by
  by_cases kind : d.kind = .dateRange
  · have some : w ≠ .null := by
      rintro rfl
      cases set
    obtain ⟨first, last, rfl⟩ := normal.range_of_kind kind some
    cases v with
    | range f l =>
      simp only [Value.same, Bool.and_eq_true] at same
      have ends : first.isEnd = true ∧ last.isEnd = true := by simpa [refusal?, kind] using fit
      have start := Value.retold_of_end ends.1 same.1
      have stop := Value.retold_of_end ends.2 same.2
      simp only [contributions, kind, List.filter_cons, List.filter_nil, Value.isNull_same same.1,
        Value.isNull_same same.2]
      cases first.isNull <;> cases last.isNull
      · exact .cons ⟨rfl, start⟩ (.cons ⟨rfl, stop⟩ .nil)
      · exact .cons ⟨rfl, start⟩ .nil
      · exact .cons ⟨rfl, stop⟩ .nil
      · exact .nil
    | _ => simp [Value.same] at same
  · rw [contributions_single kind, contributions_single kind]
    exact .cons ⟨rfl, normal.retold kind same⟩ .nil

end FilterDef

namespace FilterState

variable {s t : FilterState} {d : FilterDef} {id : String} {value new : Value}

theorem active_store (same : (s.stored id).effective.same new.effective = true) :
    (s.store id new).active = (s.defs.filter fun e => s.isSet e.2.id).map
      fun e => (e.2, (s.store id new).stored e.2.id) := by
  have kept (b : String) : (s.store id new).isSet b = s.isSet b := by
    by_cases own : b = id
    · subst own
      rw [isSet, isSet, stored_store, Value.unset_same same]
    · rw [isSet, isSet, stored_store_other own]
  unfold active
  rw [List.filter_congr fun e _ => kept e.2.id]
  rfl

-- What can be said of a filter in force before and after, knowing it of the one that was set.
theorem Keyed.active_cases (keyed : s.Keyed) (found : Entries.get? id s.defs = some d)
    (same : (s.stored id).effective.same new.effective = true) {P : FilterDef → Value → Value → Prop}
    (own : new.unset = false → (s.stored id).same new = true → P d (s.stored id) new)
    (others : ∀ e v, P e v v) :
    ∀ e ∈ s.defs.filter fun e => s.isSet e.2.id,
      P e.2 (s.stored e.2.id) ((s.store id new).stored e.2.id) := by
  intro e member
  obtain ⟨known, isSet⟩ := List.mem_filter.mp member
  by_cases here : e.2.id = id
  · have fetched := keyed.get?_of_mem known
    rw [here, found] at fetched
    cases fetched
    rw [here] at isSet ⊢
    rw [stored_store]
    have set : new.unset = false := by
      rw [← Value.unset_same same]
      simpa [FilterState.isSet] using isSet
    exact own set (Value.same_of_effective same set)
  · rw [stored_store_other here]
    exact others _ _

theorem findSome?_congr {α β : Type} {f g : α → Option β} {xs : List α} (each : ∀ x ∈ xs, f x = g x) :
    xs.findSome? f = xs.findSome? g := by
  induction xs with
  | nil => rfl
  | cons x rest ih =>
    obtain ⟨first, others⟩ := List.forall_mem_cons.mp each
    rw [List.findSome?_cons, List.findSome?_cons, first, ih others]

theorem Keyed.refusal?_store (keyed : s.Keyed) (found : Entries.get? id s.defs = some d)
    (normal : d.Normal new) (same : (s.stored id).effective.same new.effective = true) :
    (s.store id new).refusal? = s.refusal? := by
  unfold refusal?
  rw [active_store same, active, List.findSome?_map, List.findSome?_map]
  apply findSome?_congr
  exact keyed.active_cases found same (P := fun e v w => e.refusal? w = e.refusal? v)
    (fun _ equal => (FilterDef.refusal?_same normal equal).symm) fun _ _ => rfl

theorem Keyed.contributions_store (keyed : s.Keyed) (found : Entries.get? id s.defs = some d)
    (normal : d.Normal new) (same : (s.stored id).effective.same new.effective = true)
    (fit : (s.store id new).refusal? = none) :
    Entries.Paired Value.Retold s.contributions (s.store id new).contributions := by
  unfold contributions
  rw [active_store same, active, List.flatMap_map, List.flatMap_map]
  apply Entries.Paired.flatMap
  refine keyed.active_cases found same (P := fun e v w =>
    Entries.Paired Value.Retold (e.contributions v) (e.contributions w)) ?_ ?_
  · intro set equal
    have fits := List.findSome?_eq_none_iff.mp fit
    have known : s.isSet id = true := by
      rw [isSet, Value.unset_same same, set]
      rfl
    have active : (d, (s.store id new).stored d.id) ∈ (s.store id new).active := by
      rw [active_store same]
      have own := keyed.id_of_get? found
      exact List.mem_map.mpr ⟨(id, d),
        List.mem_filter.mpr ⟨Entries.mem_of_get? found, own ▸ known⟩, rfl⟩
    have own := fits _ active
    rw [keyed.id_of_get? found, stored_store] at own
    exact FilterDef.contributions_retold normal set own equal
  · intro e v
    exact Entries.Paired.refl Value.Retold.refl _

-- Under a name both states ask for a moment, at the same instant, but it is not sent as the same text.
def Retells (s t : FilterState) (key : String) : Prop :=
  ∃ a b : Moment, s.asked key = some (.moment a) ∧ t.asked key = some (.moment b) ∧
    a.same b = true ∧ (Value.moment a).restriction ≠ (Value.moment b).restriction

theorem asked_retold (paired : Entries.Paired Value.Retold s.contributions t.contributions) (key : String) :
    Option.Rel Value.Retold (s.asked key) (t.asked key) := (paired.putAll .nil).get? key

theorem restriction_iff {key : String} (retold : Option.Rel Value.Retold (s.asked key) (t.asked key)) :
    (s.asked key).map Value.restriction = (t.asked key).map Value.restriction ↔ ¬ s.Retells t key := by
  unfold Retells
  generalize s.asked key = before at retold ⊢
  generalize t.asked key = after at retold ⊢
  cases retold with
  | none => simp
  | some related =>
    rcases related with rfl | ⟨a, b, rfl, rfl, same⟩
    · refine iff_of_true rfl ?_
      rintro ⟨a, b, one, two, -, differ⟩
      rw [one] at two
      cases two
      exact differ rfl
    · simp [same]

theorem retells_iff (paired : Entries.Paired Value.Retold s.contributions t.contributions) {key : String}
    {a b : Moment} (one : a.IsReal) (two : b.IsReal) (before : s.asked key = some (.moment a))
    (after : t.asked key = some (.moment b)) : s.Retells t key ↔ a.offset ≠ b.offset := by
  have retold := asked_retold paired key
  rw [before, after] at retold
  cases retold with
  | some related =>
    have same := related.same_moment
    rw [Ne, ← Value.restriction_moment one two same]
    constructor
    · rintro ⟨a', b', before', after', -, differ⟩
      rw [before] at before'
      rw [after] at after'
      cases before'
      cases after'
      exact differ
    · exact fun differ => ⟨a, b, before, after, same, differ⟩

theorem writes_iff (paired : Entries.Paired Value.Retold s.contributions t.contributions)
    (statics : List (String × Value)) :
    (∀ key, Entries.get? key (Entries.putAll (Query.writes s statics) []) =
      Entries.get? key (Entries.putAll (Query.writes t statics) [])) ↔
      ∀ key, s.Retells t key → ∃ w, (key, w) ∈ statics ∧ w.unset = false := by
  apply forall_congr'
  intro key
  rw [Query.get?_writes, Query.get?_writes]
  by_cases taken : ∃ w, (key, w) ∈ statics ∧ w.unset = false
  · obtain ⟨r, static⟩ := Option.ne_none_iff_exists'.mp fun none => Query.get?_statics.mp none taken
    rw [static]
    exact iff_of_true rfl fun _ => taken
  · rw [Query.get?_statics.mpr taken, Option.none_or, Option.none_or, restriction_iff (asked_retold paired key)]
    exact ⟨fun never retells => absurd retells never, fun only retells => taken (only retells)⟩

theorem writes_length (paired : Entries.Paired Value.Retold s.contributions t.contributions)
    (statics : List (String × Value)) :
    (Entries.putAll (Query.writes s statics) []).length =
      (Entries.putAll (Query.writes t statics) []).length := by
  have named : Entries.Paired (fun _ _ => True) (s.contributions.map Query.encoded)
      (t.contributions.map Query.encoded) := by
    rw [Entries.Paired, List.forall₂_map_left_iff, List.forall₂_map_right_iff]
    exact paired.imp fun _ _ related => ⟨related.1, trivial⟩
  have written : Entries.Paired (fun _ _ => True) (Query.writes s statics) (Query.writes t statics) :=
    List.rel_append named (Entries.Paired.refl (R := fun _ _ => True) (fun _ => trivial) _)
  exact (written.putAll .nil).length_eq

end FilterState

namespace Query

variable {s t : FilterState} {id : String} {value : Value}

theorem unreported_cases (done : s.set id value = (t, .ok false)) :
    ∃ d new, Entries.get? id s.defs = some d ∧ d.normalize value = .ok new ∧
      (s.stored id).effective.same new.effective = true ∧ t = s.store id new := by
  have attempt := s.attempt id value
  rw [done] at attempt
  cases attempt with
  | setting settled =>
    cases settled with
    | same found taken same => exact ⟨_, _, found, taken, same, rfl⟩

-- Before and after a change that is not reported there is a query, or none for the same reason. The query
-- stays the same but for moments: one that is told anew at the same instant, with another offset, is sent
-- as another text, unless a static restriction takes its place.
theorem unreported_query (reached : s.Reached) (done : s.set id value = (t, .ok false)) (paging : Paging)
    (sorting : Sorting) (statics : List (String × Value)) :
    (∀ e, build s paging sorting statics = .error e ↔ build t paging sorting statics = .error e) ∧
    (∀ p q, build s paging sorting statics = .ok p → build t paging sorting statics = .ok q →
      (p.same q = true ↔ ∀ key, s.Retells t key → ∃ w, (key, w) ∈ statics ∧ w.unset = false) ∧
      ∀ key a b, a.IsReal → b.IsReal → s.asked key = some (.moment a) → t.asked key = some (.moment b) →
        (s.Retells t key ↔ a.offset ≠ b.offset)) := by
  obtain ⟨d, new, found, taken, same, rfl⟩ := unreported_cases done
  have keyed := reached.keyed
  have normal := FilterDef.normalize_normal taken
  have refusals := keyed.refusal?_store found normal same
  constructor
  · intro e
    rw [build_eq, build_eq, refusals]
    cases s.refusal? <;> simp
  · intro p q one two
    have legible := build_legible one
    have legible' := build_legible two
    rw [build_eq] at one
    rw [build_eq, refusals] at two
    cases refusal : s.refusal? with
    | some e =>
      rw [refusal] at one
      cases one
    | none =>
      rw [refusal] at one two
      cases one
      cases two
      have paired := keyed.contributions_store found normal same (refusals.trans refusal)
      constructor
      · have sizes := FilterState.writes_length paired statics
        rw [← FilterState.writes_iff paired statics, ← filters_same_iff legible legible' sizes]
        simp [Query.same, Number.same_refl]
      · intro key a b real real' before after
        exact FilterState.retells_iff paired real real' before after

def dayDef : FilterDef := { id := "day", kind := .date }

def dated (day : Value) : FilterState where
  defs := [("day", dayDef)]
  values := [("day", day)]

def tenEast : Moment := ⟨⟨2024, 5, 1⟩, ⟨10, 0, 0, 0⟩, some 7200000000⟩

def eight : Moment := ⟨⟨2024, 5, 1⟩, ⟨8, 0, 0, 0⟩, some 0⟩

theorem dated_reached (m : Moment) : (dated (.moment m)).Reached := by
  have made : FilterState.ofDefs [dayDef] = .ok (dated .null) := rfl
  have other : Value.null.same (.moment m) = false := by simp [Value.same]
  have changed : (dated .null).set "day" (.moment m) = (dated (.moment m), .ok true) :=
    FilterState.set_other rfl rfl other rfl
  have reached := (FilterState.Reached.declared made).set "day" (.moment m)
  rwa [changed] at reached

theorem tenEast_eight : (dated (.moment tenEast)).set "day" (.moment eight) =
    (dated (.moment eight), .ok false) :=
  (FilterState.Attempt.setting (.same rfl rfl (by decide +kernel))).exact

theorem day_overridden : (dated (.moment tenEast)).Reached ∧
    (dated (.moment tenEast)).set "day" (.moment eight) = (dated (.moment eight), .ok false) ∧
    ∃ p q, build (dated (.moment tenEast)) {} {} [("day", .text "today")] = .ok p ∧
      build (dated (.moment eight)) {} {} [("day", .text "today")] = .ok q ∧ p.same q = true := by
  refine ⟨dated_reached _, tenEast_eight, _, _, rfl, rfl, ?_⟩
  obtain ⟨-, queries⟩ := unreported_query (dated_reached _) tenEast_eight {} {} [("day", .text "today")]
  obtain ⟨alike, -⟩ := queries _ _ rfl rfl
  apply alike.mpr
  rintro key ⟨a, b, before, -⟩
  have named : "day" = key := by
    by_contra other
    have asked : (dated (.moment tenEast)).asked key = none := if_neg other
    rw [asked] at before
    cases before
  exact ⟨.text "today", by simp [named], rfl⟩

-- A moment that is told anew with another offset is not reported, but sent as another text.
theorem day_retold : (dated (.moment tenEast)).Reached ∧
    (dated (.moment tenEast)).set "day" (.moment eight) = (dated (.moment eight), .ok false) ∧
    ∃ p q, build (dated (.moment tenEast)) {} {} [] = .ok p ∧
      build (dated (.moment eight)) {} {} [] = .ok q ∧ p.same q = false :=
  ⟨dated_reached _, tenEast_eight, _, _, rfl, rfl, by decide +kernel⟩

end Query

end PagedTable
