import Mathlib.Logic.Relation
import PagedTable.Proofs.FilterOperations

namespace PagedTable

theorem Value.Alike.refl (v : Value) : v.Alike v := .inl rfl

namespace FilterState

def Lists (s : FilterState) (a b : String) : Prop :=
  ∃ d, Entries.get? a s.defs = some d ∧ b ∈ d.dependents

-- No filter depends on itself, at once or by way of others.
def Acyclic (s : FilterState) : Prop := ∀ id, ¬ Relation.TransGen s.Lists id id

def Complete (s : FilterState) : Prop := ∀ a b, s.Lists a b → ∃ d, Entries.get? b s.defs = some d

def AtDefault (s : FilterState) (id : String) : Prop :=
  ∃ d v, Entries.get? id s.defs = some d ∧ d.normalize d.default = .ok v ∧
    (s.stored id).effective.Alike v.effective

def Differs (s t : FilterState) (id : String) : Prop :=
  ¬ (s.stored id).effective.Alike (t.stored id).effective

-- Wherever a filter has changed its dependents are at their defaults.
def Followed (s t : FilterState) : Prop := ∀ a, s.Differs t a → ∀ b, s.Lists a b → t.AtDefault b

variable {s t : FilterState} {d : FilterDef} {id a b : String} {value : Value}

theorem acyclic_of_rank (rank : String → Nat) (falls : ∀ a b, s.Lists a b → rank b < rank a) :
    s.Acyclic := by
  have below {a b : String} (path : Relation.TransGen s.Lists a b) : rank b < rank a := by
    induction path with
    | single first => exact falls _ _ first
    | tail _ last ih => exact Nat.lt_trans (falls _ _ last) ih
  intro id cycle
  exact Nat.lt_irrefl _ (below cycle)

theorem Acyclic.not_back (acyclic : s.Acyclic) (lists : s.Lists id a) (further : s.Lists a b) : b ≠ id := by
  rintro rfl
  exact acyclic b (.tail (.single lists) further)

theorem stored_eq (found : Entries.get? id s.values = some value) : s.stored id = value := by
  rw [stored, found, Option.getD_some]

theorem atDefault_kept (defs : t.defs = s.defs) (kept : t.stored id = s.stored id) :
    t.AtDefault id ↔ s.AtDefault id := by
  unfold AtDefault
  rw [defs, kept]

-- What a reported change leaves: the filter with what it took, those it lists at their defaults, and the
-- others as they were. A filter that lists itself is at its default.
structure Changed (s : FilterState) (id : String) (value : Value) (t : FilterState) : Prop where
  defs : t.defs = s.defs
  own : ∀ d, Entries.get? id s.defs = some d → ¬ s.Lists id id → d.normalize value = .ok (t.stored id)
  listed : ∀ b d, s.Lists id b → Entries.get? b s.defs = some d →
    ∃ v, d.normalize d.default = .ok v ∧ t.stored b = v
  others : ∀ b, b ≠ id → ¬ s.Lists id b → t.stored b = s.stored b

theorem Keyed.changed (keyed : s.Keyed) (done : s.set id value = (t, .ok true)) :
    s.Changed id value t := by
  have attempt := s.attempt id value
  rw [done] at attempt
  cases attempt with
  | setting settled =>
    cases settled with
    | @other d new _ found taken other restored =>
      have lists {b : String} : s.Lists id b ↔ b ∈ d.dependents := by simp [Lists, found]
      have restoring := restoreAll_restoring (s := s.store id new) d.dependents
      rw [restored] at restoring
      cases restoring with
      | done restored =>
        -- restoring touches none but the listed filters
        have kept {b : String} (unlisted : ¬ s.Lists id b) : t.stored b = (s.store id new).stored b := by
          have absent : b ∉ (s.declared d.dependents).map fun e => e.id := by
            intro within
            obtain ⟨e, member, rfl⟩ := List.mem_map.mp within
            exact unlisted (lists.mpr (keyed.mem_declared.mp member).1)
          unfold stored
          rw [restored.untouched absent]
        refine ⟨restored.defs, ?_, ?_, ?_⟩
        · intro d' found' unlisted
          rw [found] at found'
          cases found'
          rw [kept unlisted, stored_store, taken]
        · intro b e listed known
          have own : e.id = b := keyed.id_of_get? known
          have member : e ∈ s.declared d.dependents :=
            keyed.mem_declared.mpr ⟨own ▸ lists.mp listed, own ▸ known⟩
          obtain ⟨v, default, here⟩ :=
            restored.restored member fun _ among same => keyed.declared_unique member among same
          exact ⟨v, default, stored_eq (own ▸ here)⟩
        · intro b other unlisted
          rw [kept unlisted, stored_store_other other]

theorem Changed.atDefault (changed : s.Changed id value t) (complete : s.Complete) (lists : s.Lists id b) :
    t.AtDefault b := by
  obtain ⟨d, known⟩ := complete id b lists
  obtain ⟨v, default, kept⟩ := changed.listed b d lists known
  exact ⟨d, v, by rw [changed.defs, known], default, by rw [kept]; exact .refl _⟩

theorem Changed.differs_iff (changed : s.Changed id value t) (complete : s.Complete) (lists : s.Lists id b) :
    s.Differs t b ↔ ¬ s.AtDefault b := by
  obtain ⟨d, known⟩ := complete id b lists
  obtain ⟨v, default, kept⟩ := changed.listed b d lists known
  unfold Differs
  rw [kept, not_iff_not]
  constructor
  · intro alike
    exact ⟨d, v, known, default, alike⟩
  · rintro ⟨d', v', known', default', alike⟩
    rw [known] at known'
    cases known'
    rw [default] at default'
    cases default'
    exact alike

-- After a change that is reported the filters listed by the one that was set are at their defaults. The
-- dependents of all that changed are if and only if each dependent of a listed filter that was not at
-- its default is listed as well, or was at its own default before.
theorem dependents_follow_iff (keyed : s.Keyed) (acyclic : s.Acyclic) (complete : s.Complete)
    (done : s.set id value = (t, .ok true)) :
    (∀ b, s.Lists id b → t.AtDefault b) ∧
      (s.Followed t ↔ ∀ a b, s.Lists id a → ¬ s.AtDefault a → s.Lists a b →
        s.Lists id b ∨ s.AtDefault b) := by
  have changed := keyed.changed done
  have untouched {b : String} (other : b ≠ id) (unlisted : ¬ s.Lists id b) :
      t.AtDefault b ↔ s.AtDefault b :=
    atDefault_kept changed.defs (changed.others b other unlisted)
  refine ⟨fun b lists => changed.atDefault complete lists, ?_, ?_⟩
  · intro followed a b lists away further
    by_cases listed : s.Lists id b
    · exact .inl listed
    · have restored := followed a ((changed.differs_iff complete lists).mpr away) b further
      exact .inr ((untouched (acyclic.not_back lists further) listed).mp restored)
  · intro covered a differs b further
    by_cases listed : s.Lists id b
    · exact changed.atDefault complete listed
    · -- the changed filter is the one that was set, or one that it lists
      have own : a = id ∨ s.Lists id a := by
        by_contra neither
        rw [not_or] at neither
        apply differs
        rw [changed.others a neither.1 neither.2]
        exact .refl _
      cases own with
      | inl same =>
        rw [same] at further
        exact absurd further listed
      | inr lists =>
        have away := (changed.differs_iff complete lists).mp differs
        have before := (covered a b lists away further).resolve_left listed
        exact (untouched (acyclic.not_back lists further) listed).mpr before

-- A region is made of cities, and a city of streets.
def places : List FilterDef :=
  [{ id := "region", dependents := ["city"] }, { id := "city", dependents := ["street"] },
    { id := "street" }]

def located : FilterState where
  defs := places.map fun d => (d.id, d)
  values := [("region", .null), ("city", .text "Cluj"), ("street", .text "Main")]

theorem located_lists (lists : located.Lists a b) :
    a = "region" ∧ b = "city" ∨ a = "city" ∧ b = "street" := by
  obtain ⟨d, found, listed⟩ := lists
  have member := Entries.mem_of_get? found
  simp only [located, places, List.map_cons, List.map_nil, List.mem_cons, Prod.mk.injEq, List.not_mem_nil,
    or_false] at member
  rcases member with ⟨rfl, rfl⟩ | ⟨rfl, rfl⟩ | ⟨rfl, rfl⟩
  · exact .inl ⟨rfl, List.mem_singleton.mp listed⟩
  · exact .inr ⟨rfl, List.mem_singleton.mp listed⟩
  · cases listed

theorem located_keyed : located.Keyed := ⟨by decide, by decide⟩

theorem located_acyclic : located.Acyclic := by
  apply acyclic_of_rank fun id => if id = "region" then 2 else if id = "city" then 1 else 0
  intro a b lists
  rcases located_lists lists with ⟨rfl, rfl⟩ | ⟨rfl, rfl⟩ <;> decide

theorem located_complete : located.Complete := by
  intro a b lists
  rcases located_lists lists with ⟨rfl, rfl⟩ | ⟨rfl, rfl⟩
  · exact ⟨_, rfl⟩
  · exact ⟨_, rfl⟩

def relocated (region city street : Value) : FilterState :=
  { located with values := [("region", region), ("city", city), ("street", street)] }

theorem located_reached : located.Reached := by
  have declared : Reached (relocated .null .null .null) := .declared (show ofDefs places = _ from rfl)
  have city : (relocated .null .null .null).set "city" (.text "Cluj") =
      (relocated .null (.text "Cluj") .null, .ok true) := set_other rfl rfl (by decide +kernel) rfl
  have street : (relocated .null (.text "Cluj") .null).set "street" (.text "Main") =
      (located, .ok true) := set_other rfl rfl (by decide +kernel) rfl
  have second := declared.set "city" (.text "Cluj")
  rw [city] at second
  have third := second.set "street" (.text "Main")
  rwa [street] at third

-- Another city has no street yet.
theorem located_city_followed : located.Keyed ∧ located.Acyclic ∧ located.Complete ∧
    ∃ t, located.set "city" (.text "Turda") = (t, .ok true) ∧ t.AtDefault "street" ∧
      located.Followed t := by
  have done : located.set "city" (.text "Turda") = (relocated .null (.text "Turda") .null, .ok true) :=
    set_other rfl rfl (by decide +kernel) rfl
  obtain ⟨listed, followed⟩ :=
    dependents_follow_iff located_keyed located_acyclic located_complete done
  refine ⟨located_keyed, located_acyclic, located_complete, _, done, ?_, followed.mpr ?_⟩
  · exact listed "street" ⟨_, rfl, List.mem_singleton_self _⟩
  · intro a b lists _ further
    rcases located_lists lists with ⟨away, -⟩ | ⟨-, rfl⟩
    · exact absurd away (by decide)
    · rcases located_lists further with ⟨away, -⟩ | ⟨away, -⟩ <;> exact absurd away (by decide)

-- Another region takes the city back to its default, and leaves the street of that city.
theorem located_region_unfollowed : located.Reached ∧ located.Acyclic ∧ located.Complete ∧
    ∃ t, located.set "region" (.text "North") = (t, .ok true) ∧ ¬ located.Followed t := by
  refine ⟨located_reached, located_acyclic, located_complete,
    relocated (.text "North") .null (.text "Main"), set_other rfl rfl (by decide +kernel) rfl, ?_⟩
  intro followed
  have changed : located.Differs (relocated (.text "North") .null (.text "Main")) "city" := by
    rintro (same | same)
    · cases same
    · exact absurd same (by decide +kernel)
  obtain ⟨d, v, known, default, alike⟩ := followed "city" changed "street" ⟨_, rfl, List.mem_singleton_self _⟩
  cases known
  cases default
  rcases alike with same | same
  · cases same
  · exact absurd same (by decide +kernel)

end FilterState

end PagedTable
