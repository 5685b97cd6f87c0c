import PagedTable.Value.Members
import PagedTable.Value.Path

namespace PagedTable

theorem Number.value_pos (n : Number) : 0 < n.value.2 := by
  cases n with
  | int n | truth b => exact Nat.one_pos
  | real x =>
    change 0 < x.ratio.2
    unfold Binary64.ratio
    split
    · exact Nat.one_pos
    · exact Nat.pow_pos (by decide)

namespace Number

theorem same_refl (a : Number) : a.same a = true := by simp [same]

theorem same_comm (a b : Number) : b.same a = a.same b := by
  unfold same
  exact Bool.beq_comm

theorem same_of_same {a b c : Number} (one : c.same a = true) (two : c.same b = true) :
    a.same b = true := by
  simp only [same, beq_iff_eq] at one two ⊢
  have pos : (c.value.2 : Int) ≠ 0 := Int.natCast_ne_zero.mpr (Nat.ne_of_gt c.value_pos)
  refine Int.eq_of_mul_eq_mul_right pos ?_
  calc a.value.1 * b.value.2 * c.value.2
    _ = a.value.1 * c.value.2 * b.value.2 := Int.mul_right_comm ..
    _ = c.value.1 * b.value.2 * a.value.2 := by rw [← one, Int.mul_right_comm]
    _ = b.value.1 * a.value.2 * c.value.2 := by rw [two, Int.mul_right_comm]

end Number

namespace Moment

theorem same_refl (a : Moment) : a.same a = true := by
  unfold same
  cases a.offset <;> simp

theorem same_comm (a b : Moment) : b.same a = a.same b := by
  unfold same
  cases a.offset <;> cases b.offset <;> simp [Bool.beq_comm]

theorem same_of_same {a b c : Moment} (one : c.same a = true) (two : c.same b = true) :
    a.same b = true := by
  cases first : a.offset <;> cases second : b.offset <;> cases third : c.offset <;>
    simp_all [same]

end Moment

namespace Value

mutual

-- A text, an integer, or a tuple of such.
def isPlain : Value → Bool
  | .text _ | .number (.int _) => true
  | .tuple items => allPlain items
  | _ => false

def allPlain : List Value → Bool
  | [] => true
  | x :: xs => x.isPlain && allPlain xs

end

theorem allPlain_cons {x : Value} {xs : List Value} :
    allPlain (x :: xs) = true ↔ x.isPlain = true ∧ allPlain xs = true := by
  simp [allPlain]

mutual

theorem isPlain_hashable : ∀ v : Value, v.isPlain = true → v.hashable = true
  | .text _, _ | .number (.int _), _ => by simp [hashable]
  | .tuple items, plain => by
    simp only [isPlain] at plain
    simpa [hashable] using allPlain_hashable items plain

theorem allPlain_hashable : ∀ vs : List Value, allPlain vs = true → allHashable vs = true
  | [], _ => by simp [allHashable]
  | x :: xs, plain => by
    obtain ⟨first, rest⟩ := allPlain_cons.mp plain
    simp [allHashable, isPlain_hashable x first, allPlain_hashable xs rest]

end

theorem allHashable_cons {x : Value} {xs : List Value} :
    allHashable (x :: xs) = true ↔ x.hashable = true ∧ allHashable xs = true := by
  simp [allHashable]

theorem allHashable_iff {vs : List Value} :
    allHashable vs = true ↔ ∀ v ∈ vs, v.hashable = true := by
  induction vs with
  | nil => simp [allHashable]
  | cons x xs ih => rw [allHashable_cons, ih, List.forall_mem_cons]

mutual

theorem same_refl : ∀ v : Value, v.hashable = true → v.same v = true
  | .null, _ | .text _, _ | .date _, _ => by simp [same]
  | .number n, _ => by simp [same, n.same_refl]
  | .moment m, _ => by simp [same, m.same_refl]
  | .range a b, h => by
    simp only [hashable, Bool.and_eq_true] at h
    simp [same, same_refl a h.1, same_refl b h.2]
  | .tuple items, h => by
    simp only [hashable] at h
    simpa [same] using sameItems_refl items h

theorem sameItems_refl : ∀ vs : List Value, allHashable vs = true → sameItems vs vs = true
  | [], _ => by simp [sameItems]
  | x :: xs, h => by
    obtain ⟨first, rest⟩ := allHashable_cons.mp h
    simp [sameItems, same_refl x first, sameItems_refl xs rest]

end

mutual

theorem same_comm : ∀ v w : Value, v.hashable = true → w.same v = v.same w
  | .null, w, _ => by cases w <;> simp [same]
  | .text _, w, _ | .date _, w, _ => by cases w <;> simp [same, Bool.beq_comm]
  | .number n, w, _ => by cases w <;> simp [same, n.same_comm]
  | .moment m, w, _ => by cases w <;> simp [same, m.same_comm]
  | .range a b, w, h => by
    simp only [hashable, Bool.and_eq_true] at h
    cases w with
    | range c d => simp [same, same_comm a c h.1, same_comm b d h.2]
    | _ => simp [same]
  | .tuple items, w, h => by
    simp only [hashable] at h
    cases w with
    | tuple others => simpa [same] using sameItems_comm items others h
    | _ => simp [same]

theorem sameItems_comm : ∀ vs ws : List Value, allHashable vs = true → sameItems ws vs = sameItems vs ws
  | [], [], _ | [], _ :: _, _ | _ :: _, [], _ => by simp [sameItems]
  | x :: xs, y :: ys, h => by
    obtain ⟨first, rest⟩ := allHashable_cons.mp h
    simp [sameItems, same_comm x y first, sameItems_comm xs ys rest]

end

mutual

theorem same_of_same : ∀ v u w : Value, v.hashable = true →
    w.same v = true → w.same u = true → v.same u = true
  | .null, u, w, _, one, two => by cases w <;> cases u <;> simp_all [same]
  | .text _, u, w, _, one, two | .date _, u, w, _, one, two => by
    cases w <;> cases u <;> simp_all [same]
  | .number n, u, w, _, one, two => by
    cases w <;> simp only [same, Bool.false_eq_true] at one
    cases u <;> simp only [same, Bool.false_eq_true] at two ⊢
    exact Number.same_of_same one two
  | .moment m, u, w, _, one, two => by
    cases w <;> simp only [same, Bool.false_eq_true] at one
    cases u <;> simp only [same, Bool.false_eq_true] at two ⊢
    exact Moment.same_of_same one two
  | .range a b, u, w, h, one, two => by
    simp only [hashable, Bool.and_eq_true] at h
    cases w <;> simp only [same, Bool.false_eq_true, Bool.and_eq_true] at one
    cases u <;> simp only [same, Bool.false_eq_true, Bool.and_eq_true] at two ⊢
    exact ⟨same_of_same a _ _ h.1 one.1 two.1, same_of_same b _ _ h.2 one.2 two.2⟩
  | .tuple items, u, w, h, one, two => by
    simp only [hashable] at h
    cases w <;> simp only [same, Bool.false_eq_true] at one
    cases u <;> simp only [same, Bool.false_eq_true] at two ⊢
    exact sameItems_of_same items _ _ h one two

theorem sameItems_of_same : ∀ vs us ws : List Value, allHashable vs = true →
    sameItems ws vs = true → sameItems ws us = true → sameItems vs us = true
  | [], us, ws, _ => by
    cases ws <;> cases us <;> simp [sameItems]
  | x :: xs, us, ws, h => by
    intro one two
    cases ws with
    | nil => simp [sameItems] at one
    | cons z zs =>
      cases us with
      | nil => simp [sameItems] at two
      | cons y ys =>
        obtain ⟨first, rest⟩ := allHashable_cons.mp h
        simp only [sameItems, Bool.and_eq_true] at one two ⊢
        exact ⟨same_of_same x y z first one.1 two.1, sameItems_of_same xs ys zs rest one.2 two.2⟩

end
theorem same_null {v : Value} : v.same .null = true ↔ v = .null := by
  cases v <;> simp [same]

theorem null_same {v : Value} : Value.null.same v = true ↔ v = .null := by
  cases v <;> simp [same]

end Value

namespace Members

theorem has_iff {v : Value} {xs : List Value} : has v xs = true ↔ ∃ x ∈ xs, x.same v = true := by
  simp [has]

theorem add_subset {xs : List Value} {v x : Value} (member : x ∈ add xs v) : x ∈ xs ∨ x = v := by
  unfold add at member
  split at member
  · exact .inl member
  · simpa using member

-- A set of members, in which none equals a later one.
def Apart (xs : List Value) : Prop := xs.Pairwise fun x y => x.same y = false

theorem Apart.add {xs : List Value} (apart : Apart xs) (v : Value) : Apart (add xs v) := by
  unfold Members.add
  split
  · exact apart
  · rename_i missing
    refine List.pairwise_append.mpr ⟨apart, List.pairwise_singleton _ _, fun x member y last => ?_⟩
    cases List.mem_singleton.mp last
    refine Bool.eq_false_iff.mpr fun same => missing (has_iff.mpr ⟨x, member, same⟩)

theorem fold_spec (vs xs : List Value) (apart : Apart xs) :
    Apart (vs.foldl add xs) ∧ ∀ x ∈ vs.foldl add xs, x ∈ xs ∨ x ∈ vs := by
  induction vs generalizing xs with
  | nil => exact ⟨apart, fun x member => .inl member⟩
  | cons v rest ih =>
    obtain ⟨later, drawn⟩ := ih (add xs v) (apart.add v)
    refine ⟨later, fun x member => ?_⟩
    rcases drawn x member with known | new
    · exact (add_subset known).imp_right fun same => by rw [same]; exact List.mem_cons_self
    · exact .inr (List.mem_cons_of_mem _ new)

theorem ofList_apart (vs : List Value) : Apart (ofList vs) := (fold_spec vs [] .nil).1

theorem mem_ofList {vs : List Value} {x : Value} (member : x ∈ ofList vs) : x ∈ vs :=
  ((fold_spec vs [] .nil).2 x member).resolve_left List.not_mem_nil

theorem Apart.covers {new old : List Value} (apart : Apart new)
    (drawn : ∀ x ∈ new, ∃ z ∈ old, z.same x = true)
    (agree : ∀ x ∈ new, ∀ y ∈ new, ∀ z : Value, z.same x = true → z.same y = true → x.same y = true)
    (large : old.length ≤ new.length) : ∀ z ∈ old, ∃ x ∈ new, z.same x = true := by
  induction new generalizing old with
  | nil =>
    intro z member
    rw [List.eq_nil_of_length_eq_zero (Nat.le_zero.mp large)] at member
    cases member
  | cons x rest ih =>
    obtain ⟨z, member, same⟩ := drawn x List.mem_cons_self
    -- what the first is drawn from is taken out: no later one is drawn from it
    obtain ⟨a, b, rfl⟩ := List.append_of_mem member
    obtain ⟨first, apart⟩ := List.pairwise_cons.mp apart
    have others : ∀ y ∈ rest, ∃ z ∈ a ++ b, z.same y = true := by
      intro y later
      obtain ⟨u, inside, other⟩ := drawn y (List.mem_cons_of_mem _ later)
      refine ⟨u, ?_, other⟩
      rcases List.mem_append.mp inside with left | right
      · exact List.mem_append_left _ left
      · rcases List.mem_cons.mp right with rfl | right
        · have equal := agree x List.mem_cons_self y (List.mem_cons_of_mem _ later) u same other
          rw [first y later] at equal
          cases equal
        · exact List.mem_append_right _ right
    have covered := ih apart others
      (fun x one y two => agree x (List.mem_cons_of_mem _ one) y (List.mem_cons_of_mem _ two))
      (by simp only [List.length_append, List.length_cons] at large ⊢; omega)
    intro u inside
    rcases List.mem_append.mp inside with left | right
    · obtain ⟨y, later, equal⟩ := covered u (List.mem_append_left _ left)
      exact ⟨y, List.mem_cons_of_mem _ later, equal⟩
    · rcases List.mem_cons.mp right with rfl | right
      · exact ⟨x, List.mem_cons_self, same⟩
      · obtain ⟨y, later, equal⟩ := covered u (List.mem_append_right _ right)
        exact ⟨y, List.mem_cons_of_mem _ later, equal⟩

end Members

end PagedTable
