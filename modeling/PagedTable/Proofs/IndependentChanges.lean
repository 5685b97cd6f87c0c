import PagedTable.Proofs.FilterWrites

namespace PagedTable.FilterState

def Takes (s : FilterState) (id : String) (value : Value) : Prop :=
  ∃ d new, Entries.get? id s.defs = some d ∧ d.normalize value = .ok new

variable {s : FilterState} {a b id : String} {x y v w value : Value}

theorem set_returns (keyed : s.Keyed) (fit : ∀ e ∈ s.defs, e.2.fits = true) (takes : s.Takes id value) :
    ∃ changed, (s.set id value).2 = .ok changed := by
  obtain ⟨d, new, found, taken⟩ := takes
  cases done : s.set id value with
  | mk t outcome =>
    cases outcome with
    | ok changed => exact ⟨changed, rfl⟩
    | error e =>
      rcases set_refused done with ⟨-, unfit⟩ | ⟨d, new, -, -, -, stopped⟩
      · obtain ⟨e, refused⟩ := unfit d found
        rw [taken] at refused
        cases refused
      · have restoring := restoreAll_restoring (s := s.store id new) d.dependents
        rw [stopped] at restoring
        exact absurd (keyed.declared_fits fit d.dependents) restoring.not_refused

theorem stored_set_apart (keyed : s.Keyed) (apart : a ≠ b) (unlisted : ¬ s.Lists a b) (x : Value) :
    (s.set a x).1.stored b = s.stored b := by
  have absent : b ∉ (s.written (.set a x)).map fun w => w.1 := by
    intro within
    obtain ⟨w, member, same⟩ := List.mem_map.mp within
    obtain ⟨-, -, own | ⟨listed, -⟩⟩ := keyed.mem_written member
    · exact apart (own.symm.trans same)
    · exact unlisted (same ▸ listed)
  exact stored_written absent

-- What two filters write under one id is the default of a third.
theorem written_agree (keyed : s.Keyed) (apart : a ≠ b) (unlisted : ¬ s.Lists a b) (unlisted' : ¬ s.Lists b a)
    (one : (id, v) ∈ s.written (.set a x)) (two : (id, w) ∈ s.written (.set b y)) : v = w := by
  obtain ⟨d, found, own | ⟨listed, rfl⟩⟩ := keyed.mem_written one
  · subst own
    obtain ⟨-, -, own' | ⟨listed', -⟩⟩ := keyed.mem_written two
    · exact absurd own' apart
    · exact absurd listed' unlisted'
  · obtain ⟨d', found', own' | ⟨-, rfl⟩⟩ := keyed.mem_written two
    · subst own'
      exact absurd listed unlisted
    · rw [found] at found'
      cases found'
      rfl

theorem set_set_values (keyed : s.Keyed) (apart : a ≠ b) (unlisted : ¬ s.Lists a b) (x y : Value) :
    ((s.set a x).1.set b y).1.values =
      Entries.putAll (s.written (.set b y)) (Entries.putAll (s.written (.set a x)) s.values) := by
  have defs := set_defs s a x
  have stored := stored_set_apart keyed apart unlisted x
  rw [set_values, written_set defs stored, set_values]

-- Two filters of which neither lists the other may be set in either order: each call returns what it
-- would return first, or is refused for the same reason, and the same values are left.
theorem independent_changes_commute (keyed : s.Keyed) (apart : a ≠ b) (unlisted : ¬ s.Lists a b)
    (unlisted' : ¬ s.Lists b a) (x y : Value) :
    (∀ id, Entries.get? id ((s.set a x).1.set b y).1.values =
      Entries.get? id ((s.set b y).1.set a x).1.values) ∧
    (s.set a x).2 = ((s.set b y).1.set a x).2 ∧ ((s.set a x).1.set b y).2 = (s.set b y).2 ∧
    ((∀ e ∈ s.defs, e.2.fits = true) → s.Takes a x → s.Takes b y →
      ∃ changed changed', (s.set a x).2 = .ok changed ∧ ((s.set a x).1.set b y).2 = .ok changed') := by
  have first : (s.set a x).2 = ((s.set b y).1.set a x).2 := by
    apply set_outcome
    · exact (set_defs s b y).symm
    · exact (stored_set_apart keyed apart.symm unlisted' y).symm
  have second : ((s.set a x).1.set b y).2 = (s.set b y).2 := by
    apply set_outcome
    · exact set_defs s a x
    · exact stored_set_apart keyed apart unlisted x
  refine ⟨?_, first, second, ?_⟩
  · intro id
    rw [set_set_values keyed apart unlisted, set_set_values keyed apart.symm unlisted']
    apply Entries.get?_putAll_exchange
    intro v w one two
    exact written_agree keyed apart unlisted unlisted' one two
  · intro fit takes takes'
    obtain ⟨changed, returned⟩ := set_returns keyed fit takes
    obtain ⟨changed', returned'⟩ := set_returns keyed fit takes'
    exact ⟨changed, changed', returned, second.trans returned'⟩

-- Sights of a kind, and a city that goes back to its default with its street.
def sights (kind city street : Value) : FilterState where
  defs := [("kind", { id := "kind", dependents := ["street", "guide"] }),
    ("city", { id := "city", default := .text "Cluj", dependents := ["street", "city"] }),
    ("street", { id := "street" })]
  values := [("kind", kind), ("city", city), ("street", street)]

theorem sights_lists (lists : (sights x y v).Lists a b) : b = "street" ∨ b = "guide" ∨ b = "city" ∧ a = "city" := by
  obtain ⟨d, found, listed⟩ := lists
  have member := Entries.mem_of_get? found
  simp only [sights, List.mem_cons, Prod.mk.injEq, List.not_mem_nil, or_false] at member
  rcases member with ⟨rfl, rfl⟩ | ⟨rfl, rfl⟩ | ⟨rfl, rfl⟩ <;> simp at listed <;> grind

theorem sights_either_way :
    (sights .null (.text "Turda") (.text "Main")).Keyed ∧
    ¬ (sights .null (.text "Turda") (.text "Main")).Lists "kind" "city" ∧
    ¬ (sights .null (.text "Turda") (.text "Main")).Lists "city" "kind" ∧
    ∃ s t, (sights .null (.text "Turda") (.text "Main")).set "kind" (.text "church") = (s, .ok true) ∧
      s.set "city" (.text "Iasi") = (t, .ok true) ∧
      ∃ u w, (sights .null (.text "Turda") (.text "Main")).set "city" (.text "Iasi") = (u, .ok true) ∧
        u.set "kind" (.text "church") = (w, .ok true) ∧
        ∀ id, Entries.get? id t.values = Entries.get? id w.values := by
  have keyed : (sights .null (.text "Turda") (.text "Main")).Keyed := ⟨by decide, by decide⟩
  have one : ¬ (sights .null (.text "Turda") (.text "Main")).Lists "kind" "city" :=
    fun lists => absurd (sights_lists lists) (by decide)
  have two : ¬ (sights .null (.text "Turda") (.text "Main")).Lists "city" "kind" :=
    fun lists => absurd (sights_lists lists) (by decide)
  obtain ⟨values, first, second, -⟩ :=
    independent_changes_commute keyed (by decide) one two (.text "church") (.text "Iasi")
  have kind : (sights .null (.text "Turda") (.text "Main")).set "kind" (.text "church") =
      (sights (.text "church") (.text "Turda") .null, .ok true) := set_other rfl rfl (by decide +kernel) rfl
  have city : (sights (.text "church") (.text "Turda") .null).set "city" (.text "Iasi") =
      (sights (.text "church") (.text "Cluj") .null, .ok true) := set_other rfl rfl (by decide +kernel) rfl
  rw [kind] at values first second
  rw [city] at values second
  exact ⟨keyed, one, two, _, _, kind, city, _, _, Prod.ext rfl second.symm, Prod.ext rfl first.symm, values⟩

end PagedTable.FilterState
