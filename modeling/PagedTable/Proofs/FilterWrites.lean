import PagedTable.Proofs.DependentFilters
import PagedTable.Proofs.RefusedOperations

namespace PagedTable

def FilterDef.initial (d : FilterDef) : Value := (d.normalize d.default).toOption.getD .null

namespace FilterState

-- What restoring the filters of a list writes: the defaults of those before the first one that refuses its
-- own.
def defaults (ds : List FilterDef) : List (String × Value) := (restorable ds).map fun d => (d.id, d.initial)

-- What an operation writes. A filter that is set writes the value that it takes, and where this restricts
-- otherwise than before, its dependents write their defaults.
def written (s : FilterState) : FilterOperation → List (String × Value)
  | .set id value =>
    match Entries.get? id s.defs with
    | none => []
    | some d =>
      match d.normalize value with
      | .error _ => []
      | .ok new =>
        (id, new) ::
          if (s.stored id).effective.same new.effective then [] else defaults (s.declared d.dependents)
  | .addDef d => defaults [d]
  | .reset => defaults (s.defs.map fun e => e.2)

variable {α : Type} {s t : FilterState} {d : FilterDef} {ds : List FilterDef} {a b id : String}
  {v value : Value} {op : FilterOperation}

theorem initial_of_default (default : d.normalize d.default = .ok v) : d.initial = v := by
  simp [FilterDef.initial, default, Except.toOption]

theorem normalize_of_fits (fit : d.fits = true) : d.normalize d.default = .ok d.initial := by
  cases default : d.normalize d.default with
  | ok v => rw [initial_of_default default]
  | error e => exact absurd fit (not_fits default)

theorem fits_of_default (default : d.normalize d.default = .ok v) : d.fits = true := by
  simp [FilterDef.fits, default, Except.isOk, Except.toBool]

theorem restorable_fitting (fit : ∀ d ∈ ds, d.fits = true) : restorable ds = ds := by
  simpa [restorable] using fit

theorem defaults_fitting (fit : ∀ d ∈ ds, d.fits = true) : defaults ds = ds.map fun d => (d.id, d.initial) := by
  rw [defaults, restorable_fitting fit]

theorem mem_defaults (member : (id, v) ∈ defaults ds) : ∃ d ∈ ds, d.id = id ∧ d.initial = v := by
  obtain ⟨d, restored, same⟩ := List.mem_map.mp member
  cases same
  exact ⟨d, (List.takeWhile_sublist _).subset restored, rfl, rfl⟩

theorem Restores.values (restored : Restores s ds t) :
    t.values = Entries.putAll (ds.map fun d => (d.id, d.initial)) s.values := by
  induction restored with
  | nil => rfl
  | cons default rest ih =>
    rw [ih, ← initial_of_default default]
    rfl

theorem Restoring.values {r : FilterState × Except Fault α} (restoring : Restoring s ds r) :
    r.1.values = Entries.putAll (defaults ds) s.values := by
  cases restoring with
  | done restored a =>
    rw [defaults_fitting restored.fit]
    exact restored.values
  | stopped first unfit restored =>
    rw [first, defaults, restorable_split restored unfit]
    exact restored.values

theorem set_values (s : FilterState) (id : String) (value : Value) :
    (s.set id value).1.values = Entries.putAll (s.written (.set id value)) s.values := by
  have attempt := s.attempt id value
  generalize s.set id value = r at attempt
  cases attempt with
  | setting settled =>
    cases settled with
    | unknown missing => simp [written, missing, Entries.putAll]
    | refused found unfit => simp [written, found, unfit, Entries.putAll]
    | same found taken same =>
      simp only [written, found, taken, if_pos same]
      rfl
    | @other d new t found taken other restored =>
      have restoring := restoreAll_restoring (s := s.store id new) d.dependents
      rw [restored] at restoring
      simp only [written, found, taken, other]
      exact restoring.values
  | @stuck d new t e found taken other stopped =>
    have restoring := restoreAll_restoring (s := s.store id new) d.dependents
    rw [stopped] at restoring
    simp only [written, found, taken, other]
    exact restoring.values

theorem addDef_values (s : FilterState) (d : FilterDef) :
    (s.addDef d).1.values = Entries.putAll (s.written (.addDef d)) s.values := by
  unfold FilterState.addDef written defaults restorable
  cases default : d.normalize d.default with
  | ok v =>
    simp only [List.takeWhile_cons, fits_of_default default, if_true, List.takeWhile_nil, List.map_cons,
      List.map_nil, initial_of_default default]
    rfl
  | error e =>
    simp only [List.takeWhile_cons, not_fits default]
    rfl

theorem perform_values (s : FilterState) (op : FilterOperation) :
    (s.perform op).1.values = Entries.putAll (s.written op) s.values := by
  cases op with
  | set id value => exact set_values s id value
  | addDef d => exact addDef_values s d
  | reset => exact reset_restoring.values

theorem perform_defs (kept : ∀ d, op ≠ .addDef d) : (s.perform op).1.defs = s.defs := by
  cases op with
  | set id value => exact set_defs s id value
  | addDef d => exact absurd rfl (kept d)
  | reset => exact reset_restoring.defs

theorem restoreAll_outcome (defs : s.defs = t.defs) (ids : List String) :
    (s.restoreAll ids).2 = (t.restoreAll ids).2 := by
  induction ids generalizing s t with
  | nil => rfl
  | cons id rest ih =>
    unfold FilterState.restoreAll
    rw [defs]
    cases found : Entries.get? id t.defs with
    | none => exact ih defs
    | some d =>
      cases default : d.normalize d.default with
      | error e => simp [restore, default]
      | ok v =>
        simp only [restore, default]
        exact ih (by simpa [store] using defs)

theorem written_set (defs : s.defs = t.defs) (stored : s.stored id = t.stored id) (value : Value) :
    s.written (.set id value) = t.written (.set id value) := by
  simp only [written, declared, defs, stored]

theorem set_outcome (defs : s.defs = t.defs) (stored : s.stored id = t.stored id) (value : Value) :
    (s.set id value).2 = (t.set id value).2 := by
  unfold FilterState.set
  rw [defs, stored]
  cases found : Entries.get? id t.defs with
  | none => rfl
  | some d =>
    dsimp only
    cases taken : d.normalize value with
    | error e => rfl
    | ok new =>
      have stores : (s.store id new).defs = (t.store id new).defs := defs
      have restoring := restoreAll_outcome stores d.dependents
      cases compared : (t.stored id).effective.same new.effective with
      | true => simp [compared]
      | false =>
        cases left : (s.store id new).restoreAll d.dependents with
        | mk u outcome =>
          cases right : (t.store id new).restoreAll d.dependents with
          | mk u' outcome' =>
            rw [left, right] at restoring
            cases restoring
            cases outcome <;> simp [compared, left, right]

-- A filter that is set writes under the ids of filters that there are: its own, and those of its
-- dependents, under which there is nothing but their defaults.
theorem Keyed.mem_written (keyed : s.Keyed) (member : (id, v) ∈ s.written (.set a value)) :
    ∃ d, Entries.get? id s.defs = some d ∧ (id = a ∨ s.Lists a id ∧ d.initial = v) := by
  unfold written at member
  cases found : Entries.get? a s.defs with
  | none => simp [found] at member
  | some d =>
    cases taken : d.normalize value with
    | error e => simp [found, taken] at member
    | ok new =>
      simp only [found, taken] at member
      rcases List.mem_cons.mp member with same | later
      · cases same
        exact ⟨d, found, .inl rfl⟩
      · split at later
        · cases later
        · obtain ⟨e, known, rfl, rfl⟩ := mem_defaults later
          obtain ⟨listed, there⟩ := keyed.mem_declared.mp known
          exact ⟨e, there, .inr ⟨⟨d, found, listed⟩, rfl⟩⟩

theorem stored_written (absent : id ∉ (s.written op).map fun w => w.1) :
    (s.perform op).1.stored id = s.stored id := by
  unfold stored
  rw [perform_values, Entries.get?_putAll_absent absent]

end FilterState

end PagedTable
