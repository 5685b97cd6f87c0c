import PagedTable.Proofs.RestForm

namespace PagedTable

namespace Value

def isEnd (v : Value) : Bool := v.isNull || v.isDate

variable {v w : Value}

theorem isEnd_iff : v.isEnd = true ↔ v.IsEnd := by
  cases v <;> simp [isEnd, IsEnd, isNull, isDate]

theorem same_text {s : String} : v.same (.text s) = true ↔ v = .text s := by
  cases v <;> simp [Value.same]

theorem sameItems_texts {items : List Value} {texts : List String} :
    sameItems items (texts.map .text) = true ↔ items = texts.map .text := by
  induction texts generalizing items with
  | nil => cases items <;> simp [sameItems]
  | cons s rest ih => cases items <;> simp [sameItems, same_text, ih]

theorem same_texts {texts : List String} :
    v.same (.tuple (texts.map .text)) = true ↔ v = .tuple (texts.map .text) := by
  cases v <;> simp [Value.same, sameItems_texts]

end Value

-- Why a filter in force cannot be part of a query.
def FilterDef.refusal? (d : FilterDef) (v : Value) : Option Fault :=
  match d.kind, v with
  | .dateRange, .range first last => if first.isEnd && last.isEnd then none else some .noAttribute
  | .dateRange, _ => some .unexpected
  | _, _ => none

theorem FilterDef.refusal?_single {d : FilterDef} {v : Value} (kind : d.kind ≠ .dateRange) :
    d.refusal? v = none := by
  unfold refusal?
  split
  · exact absurd ‹_› kind
  · exact absurd ‹_› kind
  · rfl

namespace FilterState

def refusal? (s : FilterState) : Option Fault := s.active.findSome? fun a => a.1.refusal? a.2

def asked (s : FilterState) (key : String) : Option Value :=
  Entries.get? key (Entries.putAll s.contributions [])

end FilterState

namespace Query

variable {d : FilterDef} {v : Value} {key : String} {s t : FilterState} {p q : Query}
  {statics : List (String × Value)}

theorem addFilter_eq (filters : Filters) (d : FilterDef) (v : Value) :
    addFilter filters d v =
      match d.refusal? v with
      | some e => .error e
      | none => .ok (Entries.putAll ((d.contributions v).map encoded) filters) := by
  by_cases kind : d.kind = .dateRange
  · cases v with
    | range first last =>
      have normal : d.Normal (.range first last) := .range kind first last
      by_cases ends : first.IsEnd ∧ last.IsEnd
      · have fit : d.refusal? (.range first last) = none := by
          simp [FilterDef.refusal?, kind, Value.isEnd_iff.mpr ends.1, Value.isEnd_iff.mpr ends.2]
        rw [fit]
        apply addFilter_dated normal (by simp)
        intro f l same
        cases same
        exact ends
      · have unfit : d.refusal? (.range first last) = some .noAttribute := by
          simpa [FilterDef.refusal?, kind, Value.isEnd_iff] using ends
        rw [unfit]
        apply addFilter_undated normal
        intro dated
        exact ends (dated first last rfl)
    | _ => simp [addFilter, FilterDef.refusal?, kind]
  · rw [FilterDef.refusal?_single kind, addFilter_single kind, FilterDef.contributions_single kind]
    rfl

theorem addFilters_eq (filters : Filters) (actives : List (FilterDef × Value)) :
    addFilters filters actives =
      match actives.findSome? fun a => a.1.refusal? a.2 with
      | some e => .error e
      | none =>
        .ok (Entries.putAll ((actives.flatMap fun a => a.1.contributions a.2).map encoded) filters) := by
  induction actives generalizing filters with
  | nil => rfl
  | cons a rest ih =>
    obtain ⟨d, v⟩ := a
    rw [addFilters, addFilter_eq]
    cases refused : d.refusal? v with
    | some e => simp only [List.findSome?_cons, refused]; rfl
    | none =>
      simp only [List.findSome?_cons, refused, List.flatMap_cons, List.map_append, Entries.putAll_append]
      exact ih _

theorem build_eq (s : FilterState) (paging : Paging) (sorting : Sorting)
    (statics : List (String × Value)) :
    build s paging sorting statics =
      match s.refusal? with
      | some e => .error e
      | none => .ok {
          filters := Entries.putAll (writes s statics) []
          page := paging.index
          pageSize := paging.size
          sortField := sorting.active?
          sortDirection := sorting.active?.map fun _ => sorting.direction.text } := by
  rw [build, addFilters_eq, FilterState.refusal?]
  cases s.active.findSome? fun a => a.1.refusal? a.2 with
  | some e => rfl
  | none =>
    rw [writes, Entries.putAll_append, ← addStatics_eq]
    rfl

theorem get?_statics : Entries.get? key (Entries.putAll (staticWrites statics) []) = none ↔
    ¬ ∃ w, (key, w) ∈ statics ∧ w.unset = false := by
  rw [← mem_staticWrites]
  have written : Entries.has key (Entries.putAll (staticWrites statics) []) = true ↔
      key ∈ (staticWrites statics).map fun f => f.1 := by
    rw [Entries.has_putAll]
    exact or_iff_left nofun
  rw [← written, Entries.has, Option.isSome_iff_ne_none, not_not]

theorem get?_writes (s : FilterState) (statics : List (String × Value)) (key : String) :
    Entries.get? key (Entries.putAll (writes s statics) []) =
      (Entries.get? key (Entries.putAll (staticWrites statics) [])).or
        ((s.asked key).map Value.restriction) := by
  have own : Entries.putAll (s.contributions.map encoded) [] =
      (Entries.putAll s.contributions []).map fun c => (c.1, c.2.restriction) :=
    Entries.putAll_map Value.restriction s.contributions []
  rw [writes, Entries.putAll_append, Entries.get?_putAll, own, Entries.get?_map]
  rfl

theorem toValue_same {r r' : Restriction} (one : r.texts ≠ []) (two : r'.texts ≠ []) :
    r.toValue.same r'.toValue = true ↔ r = r' := by
  have texts_injective : Function.Injective (List.map Value.text) :=
    List.map_injective_iff.mpr fun _ _ => Value.text.inj
  cases r' with
  | other => exact absurd rfl two
  | one s =>
    rw [Restriction.toValue, Value.same_text]
    cases r with
    | other => exact absurd rfl one
    | one t => simp [Restriction.toValue]
    | many texts => simp [Restriction.toValue]
  | many texts =>
    rw [Restriction.toValue, Value.same_texts]
    cases r with
    | other => exact absurd rfl one
    | one t => simp [Restriction.toValue]
    | many texts' => simp [Restriction.toValue, texts_injective.eq_iff]

theorem filters_same_iff {xs ys : Filters} (one : Legible xs) (two : Legible ys)
    (size : xs.length = ys.length) :
    (Value.map (xs.map fun f => (f.1, f.2.toValue))).same (.map (ys.map fun f => (f.1, f.2.toValue))) = true ↔
      ∀ key, Entries.get? key xs = Entries.get? key ys := by
  have names (fs : Filters) : (fs.map fun f => (f.1, f.2.toValue)).map (fun f => f.1) =
      fs.map fun f => f.1 := by
    rw [List.map_map]
    rfl
  have found (fs : Filters) (key : String) : Entries.get? key (fs.map fun f => (f.1, f.2.toValue)) =
      (Entries.get? key fs).map Restriction.toValue := Entries.get?_map Restriction.toValue fs
  constructor
  · intro same key
    obtain ⟨absent, values⟩ := Value.same_map ((names xs).symm ▸ one.distinct) same key
    rw [found, found] at absent
    cases here : Entries.get? key xs with
    | none =>
      rw [here] at absent
      exact (Option.map_eq_none_iff.mp (absent.mp rfl)).symm
    | some r =>
      cases there : Entries.get? key ys with
      | none =>
        rw [here, there] at absent
        cases absent.mpr rfl
      | some r' =>
        have equal := values r.toValue r'.toValue (by rw [found, here]; rfl) (by rw [found, there]; rfl)
        have texts := one.texts _ (Entries.mem_of_get? here)
        have texts' := two.texts _ (Entries.mem_of_get? there)
        exact congrArg some ((toValue_same texts texts').mp equal)
  · intro equal
    rw [Value.same, Bool.and_eq_true, beq_iff_eq]
    refine ⟨by simpa using size, Value.fieldsIn_of_get? ?_⟩
    intro f member
    obtain ⟨g, kept, rfl⟩ := List.mem_map.mp member
    have here := Entries.get?_of_mem one.distinct kept
    rw [equal] at here
    have texts := one.texts g kept
    exact ⟨g.2.toValue, by rw [found, here]; rfl, (toValue_same texts texts).mpr rfl⟩

end Query

end PagedTable
