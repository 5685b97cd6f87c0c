import PagedTable.Proofs.NormalForms

namespace PagedTable

namespace FilterState

-- Each definition stands under its id, and no id has two.
structure Keyed (s : FilterState) : Prop where
  named : ∀ e ∈ s.defs, e.2.id = e.1
  distinct : (s.defs.map fun e => e.1).Nodup

inductive Reached : FilterState → Prop where
  | declared (made : ofDefs ds = .ok s) : Reached s
  | added (before : Reached s) (d : FilterDef) : Reached (s.addDef d).1
  | set (before : Reached s) (id : String) (value : Value) : Reached (s.set id value).1
  | reset (before : Reached s) : Reached s.reset.1

def declared (s : FilterState) (ids : List String) : List FilterDef :=
  ids.filterMap fun id => Entries.get? id s.defs

inductive Restores : FilterState → List FilterDef → FilterState → Prop where
  | nil : Restores s [] s
  | cons {s t : FilterState} {d : FilterDef} {v : Value} {ds : List FilterDef}
      (default : d.normalize d.default = .ok v) (rest : Restores (s.store d.id v) ds t) :
      Restores s (d :: ds) t

-- All filters of a list are restored, or those before the first that refuses its default.
inductive Restoring {α : Type} (s : FilterState) (ds : List FilterDef) :
    FilterState × Except Fault α → Prop where
  | done (restored : Restores s ds t) (a : α) : Restoring s ds (t, .ok a)
  | stopped (first : ds = before ++ d :: after) (unfit : d.normalize d.default = .error e)
      (restored : Restores s before t) : Restoring s ds (t, .error e)

-- All that setting a filter can come to: as where every default is taken, or the filter has its new
-- value and one of its dependents refuses its default.
inductive Attempt (s : FilterState) (id : String) (value : Value) :
    FilterState × Except Fault Bool → Prop where
  | setting (settled : Setting s id value r) : Attempt s id value r
  | stuck (found : Entries.get? id s.defs = some d) (taken : d.normalize value = .ok new)
      (other : (s.stored id).effective.same new.effective = false)
      (stopped : (s.store id new).restoreAll d.dependents = (t, .error e)) :
      Attempt s id value (t, .error e)

variable {α : Type} {s t : FilterState} {d : FilterDef} {ds : List FilterDef} {id : String} {v : Value}

theorem Keyed.id_of_get? (keyed : s.Keyed) (found : Entries.get? id s.defs = some d) : d.id = id :=
  keyed.named _ (Entries.mem_of_get? found)

theorem Keyed.get?_of_mem (keyed : s.Keyed) {e : String × FilterDef} (member : e ∈ s.defs) :
    Entries.get? e.2.id s.defs = some e.2 := by
  rw [keyed.named e member]
  exact Entries.get?_of_mem keyed.distinct member

theorem Keyed.mem_declared (keyed : s.Keyed) {ids : List String} :
    d ∈ s.declared ids ↔ d.id ∈ ids ∧ Entries.get? d.id s.defs = some d := by
  unfold declared
  rw [List.mem_filterMap]
  constructor
  · rintro ⟨id, member, found⟩
    rw [keyed.id_of_get? found]
    exact ⟨member, found⟩
  · rintro ⟨member, found⟩
    exact ⟨d.id, member, found⟩

theorem Keyed.declared_unique (keyed : s.Keyed) {ids : List String} {d' : FilterDef}
    (one : d ∈ s.declared ids) (two : d' ∈ s.declared ids) (same : d'.id = d.id) : d' = d := by
  have first := (keyed.mem_declared.mp one).2
  have second := (keyed.mem_declared.mp two).2
  rw [same, first] at second
  exact (Option.some.inj second).symm

theorem Restores.defs (restored : Restores s ds t) : t.defs = s.defs := by
  induction restored with
  | nil => rfl
  | cons default rest ih => exact ih

theorem Restores.untouched (restored : Restores s ds t) (absent : id ∉ ds.map fun d => d.id) :
    Entries.get? id t.values = Entries.get? id s.values := by
  induction restored with
  | nil => rfl
  | cons default rest ih =>
    simp only [List.map_cons, List.mem_cons, not_or] at absent
    rw [ih absent.2]
    exact Entries.get?_put_other absent.1 _ _

theorem Restores.restored (restored : Restores s ds t) (member : d ∈ ds)
    (unique : ∀ d' ∈ ds, d'.id = d.id → d' = d) :
    ∃ v, d.normalize d.default = .ok v ∧ Entries.get? d.id t.values = some v := by
  induction restored with
  | nil => cases member
  | @cons s t d' v ds default rest ih =>
    by_cases later : d ∈ ds
    · exact ih later fun other among => unique other (List.mem_cons_of_mem _ among)
    · have own : d = d' := (List.mem_cons.mp member).resolve_right later
      subst own
      have last : d.id ∉ ds.map fun d => d.id := by
        intro again
        obtain ⟨other, among, same⟩ := List.mem_map.mp again
        exact later (unique other (List.mem_cons_of_mem _ among) same ▸ among)
      refine ⟨v, default, ?_⟩
      rw [rest.untouched last]
      exact Entries.get?_put_same _ _ _

theorem Restores.idle (restored : Restores s ds t)
    (already : ∀ d ∈ ds, ∀ v, d.normalize d.default = .ok v → Entries.get? d.id s.values = some v) :
    t = s := by
  induction restored with
  | nil => rfl
  | @cons s t d v ds default rest ih =>
    obtain ⟨first, others⟩ := List.forall_mem_cons.mp already
    have kept : s.store d.id v = s := by
      rw [store, Entries.put_found (first v default)]
    rw [kept] at ih
    exact ih others

theorem Restoring.cons {r : FilterState × Except Fault α} (default : d.normalize d.default = .ok v)
    (rest : Restoring (s.store d.id v) ds r) : Restoring s (d :: ds) r := by
  cases rest with
  | done restored a => exact .done (.cons default restored) a
  | stopped first unfit restored =>
    rw [first]
    exact .stopped rfl unfit (.cons default restored)

theorem Restoring.refused {e : Fault} (unfit : d.normalize d.default = .error e) :
    Restoring (α := α) s (d :: ds) (s, .error e) :=
  .stopped (show d :: ds = [] ++ d :: ds from rfl) unfit .nil

theorem restoreAll_restoring (ids : List String) : s.Restoring (s.declared ids) (s.restoreAll ids) := by
  induction ids generalizing s with
  | nil => exact .done .nil ()
  | cons id rest ih =>
    unfold FilterState.restoreAll declared
    cases found : Entries.get? id s.defs with
    | none =>
      simp only [List.filterMap_cons, found]
      exact ih
    | some d =>
      simp only [List.filterMap_cons, found, restore]
      cases default : d.normalize d.default with
      | error e => exact .refused default
      | ok v => exact .cons default ih

theorem resetEach_restoring (changed : Bool) (rest : List (String × FilterDef)) :
    s.Restoring (rest.map fun e => e.2) (s.resetEach changed rest) := by
  induction rest generalizing s changed with
  | nil => exact .done .nil changed
  | cons e rest ih =>
    obtain ⟨id, d⟩ := e
    unfold FilterState.resetEach
    cases default : d.normalize d.default with
    | error e => exact .refused default
    | ok v => exact .cons default (ih _)

theorem reset_restoring : s.Restoring (s.defs.map fun e => e.2) s.reset := resetEach_restoring false s.defs

theorem attempt (s : FilterState) (id : String) (value : Value) : s.Attempt id value (s.set id value) := by
  unfold FilterState.set
  cases found : Entries.get? id s.defs with
  | none => exact .setting (.unknown found)
  | some d =>
    dsimp only
    cases taken : d.normalize value with
    | error e => exact .setting (.refused found taken)
    | ok new =>
      cases compared : (s.stored id).effective.same new.effective with
      | true => simpa [compared] using Attempt.setting (.same found taken compared)
      | false =>
        cases restored : (s.store id new).restoreAll d.dependents with
        | mk t outcome =>
          cases outcome with
          | ok u => simpa [compared, restored] using Attempt.setting (.other found taken compared restored)
          | error e => simpa [compared, restored] using Attempt.stuck found taken compared restored

theorem Attempt.exact {value : Value} {r : FilterState × Except Fault Bool} (attempt : s.Attempt id value r) :
    s.set id value = r := by
  cases attempt with
  | setting settled =>
    cases settled with
    | unknown missing => simp [FilterState.set, missing]
    | refused found unfit => simp [FilterState.set, found, unfit]
    | same found taken same => simp [FilterState.set, found, taken, same]
    | other found taken other restored => simp [FilterState.set, found, taken, other, restored]
  | stuck found taken other stopped => simp [FilterState.set, found, taken, other, stopped]

theorem set_other {value new : Value} (found : Entries.get? id s.defs = some d)
    (taken : d.normalize value = .ok new)
    (other : (s.stored id).effective.same new.effective = false)
    (restored : (s.store id new).restoreAll d.dependents = (t, .ok ())) :
    s.set id value = (t, .ok true) := (Attempt.setting (.other found taken other restored)).exact

theorem Restoring.defs {r : FilterState × Except Fault α} (restoring : s.Restoring ds r) :
    r.1.defs = s.defs := by
  cases restoring with
  | done restored => exact restored.defs
  | stopped first unfit restored => exact restored.defs

theorem restoreAll_defs (ids : List String) : (s.restoreAll ids).1.defs = s.defs :=
  (restoreAll_restoring ids).defs

theorem set_defs (s : FilterState) (id : String) (value : Value) : (s.set id value).1.defs = s.defs := by
  have attempt := s.attempt id value
  generalize s.set id value = r at attempt
  cases attempt with
  | setting settled =>
    cases settled with
    | unknown missing => rfl
    | refused found unfit => rfl
    | same found taken same => rfl
    | @other d new t found taken other restored =>
      have kept := restoreAll_defs (s := s.store id new) d.dependents
      rw [restored] at kept
      exact kept
  | @stuck d new t e found taken other stopped =>
    have kept := restoreAll_defs (s := s.store id new) d.dependents
    rw [stopped] at kept
    exact kept

theorem addDef_defs (s : FilterState) (d : FilterDef) :
    (s.addDef d).1.defs = Entries.put d.id d s.defs := by
  unfold FilterState.addDef
  split <;> rfl

theorem Keyed.of_defs (keyed : s.Keyed) (same : t.defs = s.defs) : t.Keyed where
  named := same ▸ keyed.named
  distinct := same ▸ keyed.distinct

theorem Keyed.addDef (keyed : s.Keyed) (d : FilterDef) : (s.addDef d).1.Keyed where
  named := by
    rw [addDef_defs]
    intro e member
    rcases Entries.mem_put member with rfl | known
    · rfl
    · exact keyed.named e known
  distinct := by
    rw [addDef_defs]
    exact Entries.nodup_put keyed.distinct

theorem Keyed.of_sound (sound : s.Sound) : s.Keyed := ⟨sound.keyed, sound.distinct⟩

theorem Reached.keyed (reached : Reached s) : s.Keyed := by
  induction reached with
  | declared made => exact .of_sound (ofDefs_sound made)
  | added before d ih => exact ih.addDef d
  | set before id value ih => exact ih.of_defs (set_defs _ id value)
  | reset before ih => exact ih.of_defs reset_restoring.defs

end FilterState

end PagedTable
