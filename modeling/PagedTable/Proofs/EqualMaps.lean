import Mathlib.Data.List.Perm.Subperm
import PagedTable.Proofs.Entries
import PagedTable.Proofs.Identities

namespace PagedTable.Value

theorem fieldsIn_get? {xs ys : Fields} (within : fieldsIn xs ys = true) :
    ∀ f ∈ xs, ∃ w, Entries.get? f.1 ys = some w ∧ f.2.same w = true := by
  induction xs with
  | nil => nofun
  | cons f rest ih =>
    obtain ⟨key, v⟩ := f
    rw [fieldsIn, Bool.and_eq_true, Entries.lookup_eq_get?] at within
    refine List.forall_mem_cons.mpr ⟨?_, ih within.2⟩
    cases found : Entries.get? key ys with
    | none => simp [found] at within
    | some w => exact ⟨w, rfl, by simpa [found] using within.1⟩

theorem fieldsIn_of_get? {xs ys : Fields}
    (found : ∀ f ∈ xs, ∃ w, Entries.get? f.1 ys = some w ∧ f.2.same w = true) : fieldsIn xs ys = true := by
  induction xs with
  | nil => simp [fieldsIn]
  | cons f rest ih =>
    obtain ⟨w, here, same⟩ := found f List.mem_cons_self
    rw [fieldsIn, Entries.lookup_eq_get?, here, Bool.and_eq_true]
    exact ⟨same, ih fun g later => found g (List.mem_cons_of_mem _ later)⟩

theorem same_map {xs ys : Fields} (distinct : (xs.map fun f => f.1).Nodup)
    (same : (Value.map xs).same (.map ys) = true) (key : String) :
    (Entries.get? key xs = none ↔ Entries.get? key ys = none) ∧
      ∀ v w, Entries.get? key xs = some v → Entries.get? key ys = some w → v.same w = true := by
  rw [Value.same, Bool.and_eq_true, beq_iff_eq] at same
  obtain ⟨sizes, within⟩ := same
  have found := fieldsIn_get? within
  have subset : (xs.map fun f => f.1) ⊆ ys.map fun f => f.1 := by
    intro key member
    obtain ⟨f, member, rfl⟩ := List.mem_map.mp member
    obtain ⟨w, there, -⟩ := found f (by assumption)
    exact List.mem_map_of_mem (f := fun f => f.1) (Entries.mem_of_get? there)
  -- as many keys on both sides, and all of these among those
  have keys : (xs.map fun f => f.1).Perm (ys.map fun f => f.1) :=
    (List.subperm_of_subset distinct subset).perm_of_length_le (by simp [sizes])
  refine ⟨?_, fun v w here there => ?_⟩
  · rw [Entries.get?_eq_none, Entries.get?_eq_none, keys.mem_iff]
  · obtain ⟨u, other, same⟩ := found _ (Entries.mem_of_get? here)
    rw [there] at other
    cases other
    exact same

mutual

-- Whether every map in the value, and every object, has each of its keys once.
def isKeyed : Value → Bool
  | .range first last => isKeyed first && isKeyed last
  | .list items | .tuple items | .set items => allKeyed items
  | .map fields | .object _ fields => decide (fields.map fun f => f.1).Nodup && fieldsKeyed fields
  | _ => true

def allKeyed : List Value → Bool
  | [] => true
  | x :: xs => isKeyed x && allKeyed xs

def fieldsKeyed : List (String × Value) → Bool
  | [] => true
  | (_, x) :: rest => isKeyed x && fieldsKeyed rest

end

theorem fieldsKeyed_iff {fields : Fields} :
    fieldsKeyed fields = true ↔ ∀ f ∈ fields, f.2.isKeyed = true := by
  induction fields with
  | nil => simp [fieldsKeyed]
  | cons f rest ih => simp [fieldsKeyed, ih]

theorem isKeyed_map {fields : Fields} : (Value.map fields).isKeyed = true ↔
    (fields.map fun f => f.1).Nodup ∧ ∀ f ∈ fields, f.2.isKeyed = true := by
  rw [isKeyed, Bool.and_eq_true, decide_eq_true_iff, fieldsKeyed_iff]

theorem itemsIn_of_mem {xs ys : List Value} (own : ∀ x ∈ xs, x.same x = true) (drawn : xs ⊆ ys) :
    itemsIn xs ys = true := by
  induction xs with
  | nil => simp [itemsIn]
  | cons x rest ih =>
    rw [itemsIn, Bool.and_eq_true, List.any_eq_true]
    refine ⟨⟨x, drawn List.mem_cons_self, own x List.mem_cons_self⟩, ih ?_ ?_⟩
    · intro y later
      exact own y (List.mem_cons_of_mem _ later)
    · exact List.Subset.trans (List.subset_cons_self x rest) drawn

theorem sameItems_of_mem {xs : List Value} (own : ∀ x ∈ xs, x.same x = true) :
    sameItems xs xs = true := by
  induction xs with
  | nil => simp [sameItems]
  | cons x rest ih =>
    rw [sameItems, Bool.and_eq_true]
    exact ⟨own x List.mem_cons_self, ih fun y later => own y (List.mem_cons_of_mem _ later)⟩

theorem fieldsIn_of_mem {fields : Fields} (distinct : (fields.map fun f => f.1).Nodup)
    (own : ∀ f ∈ fields, f.2.same f.2 = true) : fieldsIn fields fields = true := by
  apply fieldsIn_of_get?
  intro f member
  exact ⟨f.2, Entries.get?_of_mem distinct member, own f member⟩

mutual

theorem same_of_keyed : ∀ v : Value, v.isKeyed = true → v.same v = true
  | .null, _ | .text _, _ | .date _, _ => by simp [same]
  | .number n, _ => by simp [same, n.same_refl]
  | .moment m, _ => by simp [same, m.same_refl]
  | .range first last, keyed => by
    rw [isKeyed, Bool.and_eq_true] at keyed
    simp [same, same_of_keyed first keyed.1, same_of_keyed last keyed.2]
  | .list items, keyed | .tuple items, keyed => by
    rw [isKeyed] at keyed
    simpa [same] using sameItems_of_mem (own_of_keyed items keyed)
  | .set items, keyed => by
    rw [isKeyed] at keyed
    simpa [same] using itemsIn_of_mem (own_of_keyed items keyed) (List.Subset.refl items)
  | .map fields, keyed | .object _ fields, keyed => by
    rw [isKeyed, Bool.and_eq_true, decide_eq_true_iff] at keyed
    simpa [same] using fieldsIn_of_mem keyed.1 (parts_of_keyed fields keyed.2)

theorem own_of_keyed : ∀ items : List Value, allKeyed items = true → ∀ x ∈ items, x.same x = true
  | [], _ => nofun
  | x :: xs, keyed => by
    rw [allKeyed, Bool.and_eq_true] at keyed
    exact List.forall_mem_cons.mpr ⟨same_of_keyed x keyed.1, own_of_keyed xs keyed.2⟩

theorem parts_of_keyed : ∀ fields : List (String × Value), fieldsKeyed fields = true →
    ∀ f ∈ fields, f.2.same f.2 = true
  | [], _ => nofun
  | (_, x) :: rest, keyed => by
    rw [fieldsKeyed, Bool.and_eq_true] at keyed
    exact List.forall_mem_cons.mpr ⟨same_of_keyed x keyed.1, parts_of_keyed rest keyed.2⟩

end

end PagedTable.Value
