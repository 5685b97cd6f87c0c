import PagedTable.Proofs.FilterOperations

namespace PagedTable

def FilterDef.fits (d : FilterDef) : Bool := (d.normalize d.default).isOk

inductive FilterOperation where
  | set (id : String) (value : Value)
  | addDef (d : FilterDef)
  | reset

namespace FilterState

def perform (s : FilterState) : FilterOperation → FilterState × Except Fault Unit
  | .set id value => ((s.set id value).1, (s.set id value).2.map fun _ => ())
  | .addDef d => s.addDef d
  | .reset => (s.reset.1, s.reset.2.map fun _ => ())

def HasDefault (s : FilterState) (d : FilterDef) : Prop :=
  ∃ v, d.normalize d.default = .ok v ∧ Entries.get? d.id s.values = some v

-- The filters of a list that are restored before the first one that refuses its default.
def restorable (ds : List FilterDef) : List FilterDef := ds.takeWhile FilterDef.fits

-- What was written is what stood there, should the operation be refused: the same definition; for a
-- value that the filter takes its default, written back as the filter is restored with its dependents;
-- defaults, for those restored before the refusal.
def Spared (s : FilterState) : FilterOperation → Prop
  | .set id value => ∀ d new, Entries.get? id s.defs = some d → d.normalize value = .ok new →
    id ∈ (restorable (s.declared d.dependents)).map (fun b => b.id) ∧
      ∀ b ∈ restorable (s.declared d.dependents), s.HasDefault b
  | .addDef d => Entries.get? d.id s.defs = some d
  | .reset => ∀ b ∈ restorable (s.defs.map fun e => e.2), s.HasDefault b

variable {s t : FilterState} {d : FilterDef} {ds before after : List FilterDef} {id : String}
  {value new : Value} {e : Fault} {op : FilterOperation}

theorem Restores.fit (restored : Restores s ds t) : ∀ d ∈ ds, d.fits = true := by
  induction restored with
  | nil => nofun
  | cons default rest ih => exact List.forall_mem_cons.mpr ⟨by rw [FilterDef.fits, default]; rfl, ih⟩

theorem not_fits (unfit : d.normalize d.default = .error e) : ¬ d.fits = true := by
  rw [FilterDef.fits, unfit]
  exact Bool.false_ne_true

theorem restorable_split (restored : Restores s before t) (unfit : d.normalize d.default = .error e) :
    restorable (before ++ d :: after) = before := by
  rw [restorable, List.takeWhile_append_of_pos restored.fit, List.takeWhile_cons_of_neg (not_fits unfit),
    List.append_nil]

theorem Keyed.unique (keyed : s.Keyed) {d' : FilterDef} (one : d ∈ s.defs.map fun e => e.2)
    (two : d' ∈ s.defs.map fun e => e.2) (same : d'.id = d.id) : d' = d := by
  obtain ⟨e, first, rfl⟩ := List.mem_map.mp one
  obtain ⟨e', second, rfl⟩ := List.mem_map.mp two
  have found := keyed.get?_of_mem second
  rw [same, keyed.get?_of_mem first] at found
  exact (Option.some.inj found).symm

theorem Restores.hasDefault (restored : Restores s ds t)
    (unique : ∀ d ∈ ds, ∀ d' ∈ ds, d'.id = d.id → d' = d) : ∀ d ∈ ds, t.HasDefault d :=
  fun d member => restored.restored member (unique d member)

theorem Restores.kept (restored : Restores s ds t) (already : ∀ d ∈ ds, s.HasDefault d) : t = s := by
  apply restored.idle
  intro d member v default
  obtain ⟨w, default', found⟩ := already d member
  rw [default] at default'
  cases default'
  exact found

theorem Restores.undone (restored : Restores (s.store id new) ds t) (already : ∀ d ∈ ds, s.HasDefault d)
    (own : id ∈ ds.map fun d => d.id) : t = s := by
  generalize start : s.store id new = u at restored
  induction restored with
  | nil => cases own
  | @cons u t d v ds default rest ih =>
    obtain ⟨⟨w, default', found⟩, already⟩ := List.forall_mem_cons.mp already
    rw [default] at default'
    cases default'
    subst start
    by_cases here : d.id = id
    · have back : (s.store id new).store d.id v = s := by
        rw [here] at found ⊢
        simp only [store, Entries.put_put, Entries.put_found found]
      rw [back] at rest
      exact rest.kept already
    · have same : (s.store id new).store d.id v = s.store id new := by
        simp only [store]
        rw [Entries.put_found ((Entries.get?_put_other here _ _).trans found)]
      exact ih already ((List.mem_cons.mp own).resolve_left (Ne.symm here)) same.symm

theorem addDef_refused (refused : s.addDef d = (t, .error e)) :
    t = { s with defs := Entries.put d.id d s.defs } := by
  unfold FilterState.addDef at refused
  split at refused <;> cases refused
  rfl

theorem addDef_spared (refused : s.addDef d = (t, .error e)) :
    t = s ↔ Entries.get? d.id s.defs = some d := by
  rw [addDef_refused refused]
  constructor
  · intro same
    rw [← congrArg FilterState.defs same]
    exact Entries.get?_put_same _ _ _
  · intro found
    rw [Entries.put_found found]

theorem Keyed.reset_spared (keyed : s.Keyed) (refused : s.reset = (t, .error e)) :
    t = s ↔ ∀ b ∈ restorable (s.defs.map fun e => e.2), s.HasDefault b := by
  have restoring := reset_restoring (s := s)
  rw [refused] at restoring
  cases restoring with
  | @stopped before d after _ _ first unfit restored =>
    rw [first, restorable_split restored unfit]
    refine ⟨?_, restored.kept⟩
    intro same
    have members : ∀ d ∈ before, d ∈ s.defs.map fun e => e.2 := by
      intro d member
      rw [first]
      exact List.mem_append_left _ member
    have left := restored.hasDefault fun d one d' two => keyed.unique (members d one) (members d' two)
    rwa [same] at left

theorem effective_same (same : value.same value = true) : value.effective.same value.effective = true := by
  unfold Value.effective
  split
  · simp [Value.same]
  · exact same

-- Where a dependent refused its default, the filter itself was restored, and to what it was.
theorem Keyed.stuck_spared (keyed : s.Keyed) (reflexive : ∀ e ∈ s.values, e.2.same e.2 = true)
    (other : (s.stored id).effective.same new.effective = false)
    (stopped : (s.store id new).restoreAll d.dependents = (t, .error e)) :
    t = s ↔ id ∈ (restorable (s.declared d.dependents)).map (fun b => b.id) ∧
      ∀ b ∈ restorable (s.declared d.dependents), s.HasDefault b := by
  have restoring := restoreAll_restoring (s := s.store id new) d.dependents
  rw [stopped] at restoring
  change (s.store id new).Restoring (s.declared d.dependents) _ at restoring
  cases restoring with
  | @stopped before b after _ _ first unfit restored =>
    rw [first, restorable_split restored unfit]
    refine ⟨fun same => ⟨?_, ?_⟩, fun ⟨own, already⟩ => restored.undone already own⟩
    · by_contra absent
      -- the new value is still there, and so it was before
      have found := restored.untouched absent
      rw [same, store, Entries.get?_put_same] at found
      rw [stored, found, Option.getD_some,
        effective_same (reflexive _ (Entries.mem_of_get? found))] at other
      cases other
    · have members : ∀ b ∈ before, b ∈ s.declared d.dependents := by
        intro b member
        rw [first]
        exact List.mem_append_left _ member
      have left := restored.hasDefault fun b one b' two =>
        keyed.declared_unique (members b one) (members b' two)
      rwa [same] at left

theorem set_refused (refused : s.set id value = (t, .error e)) :
    (t = s ∧ ∀ d, Entries.get? id s.defs = some d → ∃ e, d.normalize value = .error e) ∨
      ∃ d new, Entries.get? id s.defs = some d ∧ d.normalize value = .ok new ∧
        (s.stored id).effective.same new.effective = false ∧
        (s.store id new).restoreAll d.dependents = (t, .error e) := by
  have attempt := s.attempt id value
  rw [refused] at attempt
  cases attempt with
  | stuck found taken other stopped => exact .inr ⟨_, _, found, taken, other, stopped⟩
  | setting settled =>
    refine .inl ?_
    cases settled with
    | unknown missing => exact ⟨rfl, by simp [missing]⟩
    | refused found unfit =>
      refine ⟨rfl, fun d found' => ?_⟩
      rw [found] at found'
      cases found'
      exact ⟨_, unfit⟩

theorem Keyed.set_spared (keyed : s.Keyed) (reflexive : ∀ e ∈ s.values, e.2.same e.2 = true)
    (refused : s.set id value = (t, .error e)) : t = s ↔ s.Spared (.set id value) := by
  rcases set_refused refused with ⟨same, unfit⟩ | ⟨d, new, found, taken, other, stopped⟩
  · refine ⟨fun _ d new found taken => ?_, fun _ => same⟩
    obtain ⟨e, refused⟩ := unfit d found
    rw [refused] at taken
    cases taken
  · rw [keyed.stuck_spared reflexive other stopped]
    constructor
    · intro spared d' new' found' taken'
      rw [found] at found'
      cases found'
      exact spared
    · intro spared
      exact spared d new found taken

theorem Restoring.not_refused {α : Type} (restoring : s.Restoring ds (t, (.error e : Except Fault α))) :
    ¬ ∀ d ∈ ds, d.fits = true := by
  cases restoring with
  | stopped first unfit restored =>
    intro fit
    rw [first] at fit
    exact not_fits unfit (fit _ (List.mem_append_right _ List.mem_cons_self))

theorem Keyed.declared_fits (keyed : s.Keyed) (fit : ∀ e ∈ s.defs, e.2.fits = true) (ids : List String) :
    ∀ d ∈ s.declared ids, d.fits = true := by
  intro d member
  exact fit _ (Entries.mem_of_get? (keyed.mem_declared.mp member).2)

theorem map_refused {α : Type} {r : FilterState × Except Fault α}
    (refused : (r.1, r.2.map fun _ => ()) = (t, .error e)) : r = (t, .error e) := by
  obtain ⟨u, outcome⟩ := r
  cases outcome with
  | error e' => simpa [Except.map] using refused
  | ok a => simp [Except.map] at refused

-- A refused operation leaves all as it was if and only if what it wrote by then stood there before. A
-- refused declaration never touches the values, and where all filters take their defaults it alone
-- leaves anything.
theorem refused_keeps_iff (keyed : s.Keyed) (reflexive : ∀ e ∈ s.values, e.2.same e.2 = true)
    (refused : s.perform op = (t, .error e)) :
    (t = s ↔ s.Spared op) ∧ (∀ d, op = .addDef d → t.values = s.values) ∧
      ((∀ e ∈ s.defs, e.2.fits = true) → (∀ d, op ≠ .addDef d) → t = s) := by
  cases op with
  | addDef d =>
    refine ⟨addDef_spared refused, ?_, fun _ other => absurd rfl (other d)⟩
    intro _ _
    rw [addDef_refused refused]
  | reset =>
    have stopped : s.reset = (t, .error e) := map_refused refused
    refine ⟨keyed.reset_spared stopped, nofun, fun fit _ => ?_⟩
    have restoring := reset_restoring (s := s)
    rw [stopped] at restoring
    exact absurd (List.forall_mem_map.mpr fit) restoring.not_refused
  | set id value =>
    have stopped : s.set id value = (t, .error e) := map_refused refused
    refine ⟨keyed.set_spared reflexive stopped, nofun, fun fit _ => ?_⟩
    rcases set_refused stopped with ⟨same, -⟩ | ⟨d, new, found, taken, other, refused⟩
    · exact same
    · have restoring := restoreAll_restoring (s := s.store id new) d.dependents
      rw [refused] at restoring
      exact absurd (keyed.declared_fits fit d.dependents) restoring.not_refused

-- A city of which the size is a text, but a number at first.
def sizeDef : FilterDef := { id := "size", default := .int 5 }

def cities : FilterState where
  defs := [("city", { id := "city", dependents := ["size"] })]
  values := [("city", .null)]

def sized (city : Value) : FilterState where
  defs := [("city", { id := "city", dependents := ["size"] }), ("size", sizeDef)]
  values := [("city", city)]

theorem sizeDef_refused : cities.addDef sizeDef = (sized .null, .error (.wrongShape "size" .string "int")) := rfl

-- A number is refused for the city before anything is written, a text when the city has it already.
theorem sized_spared : (sized .null).Keyed ∧ (∀ e ∈ (sized .null).values, e.2.same e.2 = true) ∧
    (∃ t e, (sized .null).perform (.set "city" (.int 12)) = (t, .error e) ∧ t = sized .null) ∧
    ∃ t e, (sized .null).perform (.set "city" (.text "Cluj")) = (t, .error e) ∧ t ≠ sized .null := by
  have keyed : (sized .null).Keyed := ⟨by decide, by decide⟩
  have reflexive : ∀ e ∈ (sized .null).values, e.2.same e.2 = true := by
    intro e member
    rw [List.mem_singleton.mp member]
    decide +kernel
  have number : (sized .null).perform (.set "city" (.int 12)) =
      (sized .null, .error (.wrongShape "city" .string "int")) := rfl
  have stuck : (sized .null).set "city" (.text "Cluj") =
      (sized (.text "Cluj"), .error (.wrongShape "size" .string "int")) :=
    (Attempt.stuck rfl rfl (by decide +kernel) rfl).exact
  have text : (sized .null).perform (.set "city" (.text "Cluj")) =
      (sized (.text "Cluj"), .error (.wrongShape "size" .string "int")) := by
    rw [perform, stuck]
    rfl
  obtain ⟨spared, -⟩ := refused_keeps_iff keyed reflexive number
  obtain ⟨written, -⟩ := refused_keeps_iff keyed reflexive text
  refine ⟨keyed, reflexive, ⟨_, _, number, spared.mpr ?_⟩, _, _, text, ?_⟩
  · intro d new found taken
    cases found
    cases taken
  · intro same
    have own := (written.mp same _ _ rfl rfl).1
    cases own

-- A definition that is refused is declared all the same.
theorem refused_declared : cities.Reached ∧ ∃ t e, cities.addDef sizeDef = (t, .error e) ∧
    Entries.get? "size" cities.defs = none ∧ Entries.get? "size" t.defs = some sizeDef := by
  have made : ofDefs [{ id := "city", dependents := ["size"] }] = .ok cities := rfl
  exact ⟨.declared made, _, _, sizeDef_refused, rfl, rfl⟩

end FilterState

end PagedTable
