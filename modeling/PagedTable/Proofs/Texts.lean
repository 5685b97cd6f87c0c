import Mathlib.Data.List.DropRight
import Mathlib.Data.List.Sort
import PagedTable.Text.Blank
import PagedTable.Text.Order

namespace PagedTable.Text

theorem dropWhile_prefix {α : Type} {p : α → Bool} {xs ys : List α} (front : xs <+: ys)
    (kept : ys.dropWhile p = ys) : xs.dropWhile p = xs := by
  obtain ⟨rest, rfl⟩ := front
  cases xs with
  | nil => rfl
  | cons x xs =>
    have first := List.dropWhile_eq_self_iff.mp kept (Nat.succ_pos _)
    exact List.dropWhile_eq_self_iff.mpr fun _ => first

theorem stripChars_stripChars (cs : List Char) : stripChars (stripChars cs) = stripChars cs := by
  let front := cs.dropWhile isBlank
  let kept := front.rdropWhile isBlank
  have bare : front.dropWhile isBlank = front := List.dropWhile_idempotent _ _
  have begins : kept.dropWhile isBlank = kept := dropWhile_prefix (List.rdropWhile_prefix _ _) bare
  calc stripChars (stripChars cs)
    _ = (kept.dropWhile isBlank).rdropWhile isBlank := rfl
    _ = kept.rdropWhile isBlank := by rw [begins]
    _ = kept := List.rdropWhile_idempotent _ _

theorem strip_strip (s : String) : strip (strip s) = strip s := by
  simp only [strip, String.toList_ofList, stripChars_stripChars]

theorem charsAtMost_total (cs ds : List Char) : charsAtMost cs ds = true ∨ charsAtMost ds cs = true := by
  induction cs generalizing ds with
  | nil => exact .inl rfl
  | cons c cs ih =>
    cases ds with
    | nil => exact .inr rfl
    | cons d ds =>
      simp only [charsAtMost, Bool.or_eq_true, decide_eq_true_eq, Bool.and_eq_true, beq_iff_eq]
      rcases Nat.lt_trichotomy c.toNat d.toNat with less | same | more
      · exact .inl (.inl less)
      · have equal : c = d := Char.toNat_inj.mp same
        exact (ih ds).imp (fun le => .inr ⟨equal, le⟩) (fun le => .inr ⟨equal.symm, le⟩)
      · exact .inr (.inl more)

theorem charsAtMost_trans {cs ds es : List Char} (one : charsAtMost cs ds = true)
    (two : charsAtMost ds es = true) : charsAtMost cs es = true := by
  induction cs generalizing ds es with
  | nil => rfl
  | cons c cs ih =>
    cases ds with
    | nil => cases one
    | cons d ds =>
      cases es with
      | nil => cases two
      | cons e es =>
        simp only [charsAtMost, Bool.or_eq_true, decide_eq_true_eq, Bool.and_eq_true, beq_iff_eq]
          at one two ⊢
        rcases one with less | ⟨rfl, one⟩ <;> rcases two with more | ⟨rfl, two⟩
        · exact .inl (Nat.lt_trans less more)
        · exact .inl less
        · exact .inl more
        · exact .inr ⟨rfl, ih one two⟩

abbrev Precedes (a b : String) : Prop := atMost a b = true

instance : Std.Total Precedes := ⟨fun a b => charsAtMost_total a.toList b.toList⟩

instance : IsTrans String Precedes := ⟨fun _ _ _ => charsAtMost_trans⟩

theorem lt_of_charsAtMost {cs ds : List Char} (atMost : charsAtMost cs ds = true) (other : cs ≠ ds) : cs < ds := by
  induction cs generalizing ds with
  | nil =>
    cases ds with
    | nil => exact absurd rfl other
    | cons d ds => exact List.nil_lt_cons d ds
  | cons c cs ih =>
    cases ds with
    | nil => cases atMost
    | cons d ds =>
      simp only [charsAtMost, Bool.or_eq_true, decide_eq_true_eq, Bool.and_eq_true, beq_iff_eq] at atMost
      rw [List.cons_lt_cons_iff]
      rcases atMost with less | ⟨rfl, atMost⟩
      · exact .inl less
      · exact .inr ⟨rfl, ih atMost fun same => other (by rw [same])⟩

theorem lt_of_precedes {s t : String} (precedes : Precedes s t) (other : s ≠ t) : s < t :=
  String.lt_iff.mpr (lt_of_charsAtMost precedes fun same => other (String.toList_inj.mp same))

theorem precedes_antisymm {s t : String} (one : Precedes s t) (two : Precedes t s) : s = t := by
  by_contra other
  exact absurd (lt_of_precedes one other) (String.lt_asymm (lt_of_precedes two (Ne.symm other)))

theorem insert_eq (s : String) (texts : List String) :
    insert s texts = texts.orderedInsert Precedes s := by
  induction texts with
  | nil => rfl
  | cons t rest ih => simp only [insert, List.orderedInsert_cons, ih]

theorem sort_eq (texts : List String) : sort texts = texts.insertionSort Precedes := by
  induction texts with
  | nil => rfl
  | cons t rest ih =>
    rw [List.insertionSort_cons, ← ih, ← insert_eq]
    rfl

theorem sort_perm (texts : List String) : (sort texts).Perm texts := by
  rw [sort_eq]
  exact List.perm_insertionSort _ _

theorem sort_sorted (texts : List String) : (sort texts).Pairwise Precedes := by
  rw [sort_eq]
  exact List.pairwise_insertionSort _ _

theorem sort_of_sorted {texts : List String} (sorted : texts.Pairwise Precedes) : sort texts = texts := by
  rw [sort_eq]
  exact sorted.insertionSort_eq

theorem sort_eq_iff {texts others : List String} : sort texts = sort others ↔ texts.Perm others := by
  constructor
  · intro same
    exact (sort_perm texts).symm.trans (same ▸ sort_perm others)
  · intro perm
    have sorted : (sort texts).Perm (sort others) := (sort_perm texts).trans (perm.trans (sort_perm others).symm)
    refine List.Perm.eq_of_pairwise ?_ (sort_sorted texts) (sort_sorted others) sorted
    intro s t _ _ one two
    exact precedes_antisymm one two

theorem mem_distinct {s : String} {texts : List String} : s ∈ distinct texts ↔ s ∈ texts := by
  induction texts with
  | nil => rfl
  | cons t rest ih =>
    by_cases same : s = t
    · simp [distinct, same]
    · simp [distinct, ih, same]

theorem distinct_nodup (texts : List String) : (distinct texts).Nodup := by
  induction texts with
  | nil => exact .nil
  | cons t rest ih => exact List.nodup_cons.mpr ⟨by simp, ih.filter _⟩

theorem sort_distinct_eq_iff {texts others : List String} :
    sort (distinct texts) = sort (distinct others) ↔ ∀ s, s ∈ texts ↔ s ∈ others := by
  rw [sort_eq_iff, List.perm_ext_iff_of_nodup (distinct_nodup texts) (distinct_nodup others)]
  simp only [mem_distinct]

theorem distinct_of_nodup {texts : List String} (nodup : texts.Nodup) : distinct texts = texts := by
  induction texts with
  | nil => rfl
  | cons t rest ih =>
    obtain ⟨fresh, nodup⟩ := List.nodup_cons.mp nodup
    have others : rest.filter (· ≠ t) = rest := by
      refine List.filter_eq_self.mpr fun s member => ?_
      simpa using fun same : s = t => fresh (same ▸ member)
    rw [distinct, ih nodup, others]

end PagedTable.Text
