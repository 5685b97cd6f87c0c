import Mathlib.Data.List.Perm.Basic
import PagedTable.Entries

namespace PagedTable.Entries

variable {κ α : Type} [DecidableEq κ] {key : κ} {value : α} {entries : List (κ × α)}

theorem mem_of_get? (found : get? key entries = some value) : (key, value) ∈ entries := by
  induction entries with
  | nil => cases found
  | cons e rest ih =>
    obtain ⟨k, v⟩ := e
    unfold get? at found
    split at found
    · rename_i same
      cases same
      cases found
      exact List.mem_cons_self
    · exact List.mem_cons_of_mem _ (ih found)

theorem has_of_mem {e : κ × α} (member : e ∈ entries) : has e.1 entries = true := by
  induction entries with
  | nil => cases member
  | cons f rest ih =>
    unfold has get?
    split
    · rfl
    · rename_i other
      rcases List.mem_cons.mp member with rfl | later
      · exact absurd rfl other
      · exact ih later

theorem mem_put {e : κ × α} (member : e ∈ put key value entries) : e = (key, value) ∨ e ∈ entries := by
  induction entries with
  | nil => exact .inl (List.mem_singleton.mp member)
  | cons f rest ih =>
    obtain ⟨k, v⟩ := f
    unfold put at member
    split at member
    · rename_i same
      cases same
      rcases List.mem_cons.mp member with rfl | later
      · exact .inl rfl
      · exact .inr (List.mem_cons_of_mem _ later)
    · rcases List.mem_cons.mp member with rfl | later
      · exact .inr List.mem_cons_self
      · exact (ih later).imp_right (List.mem_cons_of_mem _)

theorem mem_put_self : (key, value) ∈ put key value entries := mem_of_get? (get?_put_same key value entries)

theorem put_found (found : get? key entries = some value) : put key value entries = entries := by
  induction entries with
  | nil => cases found
  | cons e rest ih =>
    obtain ⟨k, v⟩ := e
    unfold get? at found
    unfold put
    split at found
    · rename_i same
      cases found
      rw [if_pos same]
    · rename_i other
      rw [if_neg other, ih found]

theorem put_put (earlier : α) : put key value (put key earlier entries) = put key value entries := by
  induction entries with
  | nil => simp [put]
  | cons e rest ih =>
    obtain ⟨k, v⟩ := e
    by_cases same : k = key <;> simp [put, same, ih]

theorem put_absent (absent : key ∉ entries.map fun e => e.1) :
    put key value entries = entries ++ [(key, value)] := by
  induction entries with
  | nil => rfl
  | cons e rest ih =>
    simp only [List.map_cons, List.mem_cons, not_or] at absent
    simp only [put, if_neg (Ne.symm absent.1), ih absent.2, List.cons_append]

theorem erase_absent (absent : key ∉ entries.map fun e => e.1) : erase key entries = entries := by
  refine List.filter_eq_self.mpr fun e member => ?_
  have other : e.1 ≠ key := fun same => absent (same ▸ List.mem_map_of_mem member)
  simpa using other

theorem erase_perm (found : get? key entries = some value)
    (distinct : (entries.map fun e => e.1).Nodup) :
    entries.Perm ((key, value) :: erase key entries) := by
  induction entries with
  | nil => cases found
  | cons e rest ih =>
    obtain ⟨k, v⟩ := e
    simp only [List.map_cons, List.nodup_cons] at distinct
    unfold get? at found
    split at found
    · rename_i same
      cases same
      cases found
      have dropped : erase key ((key, value) :: rest) = rest := by
        rw [← erase_absent distinct.1]
        simp [erase]
      rw [dropped]
    · rename_i other
      have kept : erase key ((k, v) :: rest) = (k, v) :: erase key rest := by
        simp [erase, other]
      rw [kept]
      exact ((ih found distinct.2).cons _).trans (.swap _ _ _)

theorem get?_eq_none : get? key entries = none ↔ key ∉ entries.map fun e => e.1 := by
  induction entries with
  | nil => simp [get?]
  | cons e rest ih =>
    obtain ⟨k, v⟩ := e
    by_cases same : k = key
    · simp [get?, same]
    · simp [get?, same, ih, Ne.symm same]

theorem get?_of_mem (distinct : (entries.map fun e => e.1).Nodup) (member : (key, value) ∈ entries) :
    get? key entries = some value := by
  induction entries with
  | nil => cases member
  | cons e rest ih =>
    simp only [List.map_cons, List.nodup_cons] at distinct
    unfold get?
    rcases List.mem_cons.mp member with rfl | later
    · exact if_pos rfl
    · have other : e.1 ≠ key := fun same => distinct.1 (same ▸ List.mem_map_of_mem later)
      rw [if_neg other]
      exact ih distinct.2 later

theorem get?_map {β : Type} (f : α → β) (entries : List (κ × α)) :
    get? key (entries.map fun e => (e.1, f e.2)) = (get? key entries).map f := by
  induction entries with
  | nil => rfl
  | cons e rest ih =>
    simp only [List.map_cons, get?, ih]
    split <;> rfl

theorem lookup_eq_get? (key : String) (entries : List (String × α)) :
    entries.lookup key = get? key entries := by
  induction entries with
  | nil => rfl
  | cons e rest ih =>
    obtain ⟨k, v⟩ := e
    by_cases same : k = key
    · simp [get?, same]
    · have other : (key == k) = false := by simpa using Ne.symm same
      simp only [List.lookup_cons, other, get?, if_neg same, ih]

theorem eq_of_get? {others : List (κ × α)} (keys : (entries.map fun e => e.1) = others.map fun e => e.1)
    (distinct : (others.map fun e => e.1).Nodup) (found : ∀ e ∈ others, get? e.1 entries = some e.2) :
    entries = others := by
  induction entries generalizing others with
  | nil =>
    cases others with
    | nil => rfl
    | cons => simp at keys
  | cons e rest ih =>
    cases others with
    | nil => simp at keys
    | cons f others =>
      obtain ⟨k, v⟩ := e
      obtain ⟨k', w⟩ := f
      simp only [List.map_cons, List.cons.injEq] at keys
      obtain ⟨rfl, keys⟩ := keys
      simp only [List.map_cons, List.nodup_cons] at distinct
      obtain ⟨first, later⟩ := List.forall_mem_cons.mp found
      have own : v = w := by simpa [get?] using first
      have same : rest = others := by
        apply ih keys distinct.2
        intro e member
        have other : k ≠ e.1 := fun same => distinct.1 (same ▸ List.mem_map_of_mem member)
        simpa [get?, other] using later e member
      rw [own, same]

theorem keys_put (present : key ∈ entries.map fun e => e.1) :
    (put key value entries).map (fun e => e.1) = entries.map fun e => e.1 := by
  induction entries with
  | nil => cases present
  | cons e rest ih =>
    unfold put
    split
    · rename_i same
      simp only [List.map_cons, same]
    · rename_i other
      have later := (List.mem_cons.mp present).resolve_left (Ne.symm other)
      simp only [List.map_cons, ih later]

theorem keys_put_congr {β : Type} {others : List (κ × β)} {w : β}
    (keys : (entries.map fun e => e.1) = others.map fun e => e.1) :
    (put key value entries).map (fun e => e.1) = (put key w others).map fun e => e.1 := by
  by_cases present : key ∈ entries.map fun e => e.1
  · rw [keys_put present, keys_put (keys ▸ present), keys]
  · rw [put_absent present, put_absent (keys ▸ present)]
    simp [keys]

theorem nodup_put (distinct : (entries.map fun e => e.1).Nodup) :
    ((put key value entries).map fun e => e.1).Nodup := by
  by_cases present : key ∈ entries.map fun e => e.1
  · rw [keys_put present]
    exact distinct
  · rw [put_absent present, List.map_append]
    refine List.nodup_append.mpr ⟨distinct, by simp, fun k member other last => ?_⟩
    have own : other = key := List.mem_singleton.mp last
    rw [own]
    exact fun same => present (same ▸ member)

theorem mem_put_iff (distinct : (entries.map fun e => e.1).Nodup) {e : κ × α} :
    e ∈ put key value entries ↔ e = (key, value) ∨ e ∈ entries ∧ e.1 ≠ key := by
  have found : e ∈ put key value entries ↔ get? e.1 (put key value entries) = some e.2 :=
    ⟨get?_of_mem (nodup_put distinct), mem_of_get?⟩
  have before : e ∈ entries ↔ get? e.1 entries = some e.2 := ⟨get?_of_mem distinct, mem_of_get?⟩
  rw [found, before]
  by_cases same : e.1 = key
  · rw [same, get?_put_same]
    constructor
    · exact fun equal => .inl (Prod.ext same (Option.some.inj equal).symm)
    · rintro (equal | ⟨-, other⟩)
      · rw [equal]
      · exact absurd rfl other
  · rw [get?_put_other same]
    constructor
    · exact fun kept => .inr ⟨kept, same⟩
    · rintro (equal | ⟨kept, -⟩)
      · exact absurd (by rw [equal]) same
      · exact kept

def putAll (writes entries : List (κ × α)) : List (κ × α) :=
  writes.foldl (fun entries w => put w.1 w.2 entries) entries

theorem putAll_append (first second entries : List (κ × α)) :
    putAll (first ++ second) entries = putAll second (putAll first entries) := List.foldl_append

theorem get?_putAll_absent {writes : List (κ × α)} (absent : key ∉ writes.map fun w => w.1)
    (entries : List (κ × α)) : get? key (putAll writes entries) = get? key entries := by
  induction writes generalizing entries with
  | nil => rfl
  | cons w rest ih =>
    simp only [List.map_cons, List.mem_cons, not_or] at absent
    exact (ih absent.2 _).trans (get?_put_other absent.1 ..)

theorem get?_putAll_last {older newer : List (κ × α)} (last : key ∉ newer.map fun w => w.1)
    (entries : List (κ × α)) :
    get? key (putAll (older ++ (key, value) :: newer) entries) = some value := by
  rw [putAll_append]
  exact (get?_putAll_absent last _).trans (get?_put_same ..)

theorem get?_putAll_mem {writes : List (κ × α)} (distinct : (writes.map fun w => w.1).Nodup)
    (member : (key, value) ∈ writes) (entries : List (κ × α)) :
    get? key (putAll writes entries) = some value := by
  obtain ⟨older, newer, rfl⟩ := List.append_of_mem member
  rw [List.map_append, List.map_cons] at distinct
  exact get?_putAll_last (List.nodup_cons.mp (List.nodup_append.mp distinct).2.1).1 entries

theorem nodup_putAll {writes : List (κ × α)} (distinct : (entries.map fun e => e.1).Nodup) :
    ((putAll writes entries).map fun e => e.1).Nodup := by
  induction writes generalizing entries with
  | nil => exact distinct
  | cons w rest ih => exact ih (nodup_put distinct)

theorem mem_putAll {writes : List (κ × α)} {e : κ × α} (member : e ∈ putAll writes entries) :
    e ∈ writes ∨ e ∈ entries := by
  induction writes generalizing entries with
  | nil => exact .inr member
  | cons w rest ih =>
    rcases ih member with later | before
    · exact .inl (List.mem_cons_of_mem _ later)
    · rcases mem_put before with rfl | known
      · exact .inl List.mem_cons_self
      · exact .inr known

theorem keys_putAll {writes : List (κ × α)} (present : ∀ w ∈ writes, w.1 ∈ entries.map fun e => e.1) :
    (putAll writes entries).map (fun e => e.1) = entries.map fun e => e.1 := by
  induction writes generalizing entries with
  | nil => rfl
  | cons w rest ih =>
    obtain ⟨first, others⟩ := List.forall_mem_cons.mp present
    have kept : (put w.1 w.2 entries).map (fun e => e.1) = entries.map fun e => e.1 := keys_put first
    exact (ih (kept ▸ others)).trans kept

theorem putAll_apart {writes : List (κ × α)} (apart : ((entries ++ writes).map fun e => e.1).Nodup) :
    putAll writes entries = entries ++ writes := by
  induction writes generalizing entries with
  | nil => simp [putAll]
  | cons w rest ih =>
    have absent : w.1 ∉ entries.map fun e => e.1 := by
      rw [List.map_append, List.nodup_append] at apart
      intro member
      exact apart.2.2 _ member _ (by simp) rfl
    have first : put w.1 w.2 entries = entries ++ [w] := put_absent absent
    have later : putAll rest (entries ++ [w]) = entries ++ [w] ++ rest := ih (by simpa using apart)
    change putAll rest (put w.1 w.2 entries) = entries ++ w :: rest
    rw [first, later, List.append_assoc, List.singleton_append]

theorem putAll_covering {writes : List (κ × α)} (distinct : (writes.map fun w => w.1).Nodup)
    (covering : (entries.map fun e => e.1) = writes.map fun w => w.1) : putAll writes entries = writes := by
  apply eq_of_get?
  · rw [keys_putAll, covering]
    intro w member
    rw [covering]
    exact List.mem_map_of_mem member
  · exact distinct
  · intro w member
    exact get?_putAll_mem distinct member entries

theorem last_write {writes : List (κ × α)} (written : key ∈ writes.map fun w => w.1) :
    ∃ older value newer, writes = older ++ (key, value) :: newer ∧ key ∉ newer.map fun w => w.1 := by
  induction writes with
  | nil => cases written
  | cons w rest ih =>
    by_cases later : key ∈ rest.map fun w => w.1
    · obtain ⟨older, value, newer, split, last⟩ := ih later
      exact ⟨w :: older, value, newer, by rw [split]; rfl, last⟩
    · have own : key = w.1 := (List.mem_cons.mp written).resolve_right later
      exact ⟨[], w.2, rest, by rw [own]; rfl, later⟩

theorem has_putAll {writes : List (κ × α)} :
    has key (putAll writes entries) = true ↔ key ∈ writes.map (fun w => w.1) ∨ has key entries = true := by
  by_cases written : key ∈ writes.map fun w => w.1
  · obtain ⟨older, value, newer, rfl, last⟩ := last_write written
    simp only [has, get?_putAll_last last, Option.isSome_some, written, true_or]
  · simp only [has, get?_putAll_absent written, written, false_or]

theorem get?_putAll (writes entries : List (κ × α)) :
    get? key (putAll writes entries) = (get? key (putAll writes [])).or (get? key entries) := by
  by_cases written : key ∈ writes.map fun w => w.1
  · obtain ⟨older, value, newer, rfl, last⟩ := last_write written
    rw [get?_putAll_last last, get?_putAll_last last, Option.some_or]
  · rw [get?_putAll_absent written, get?_putAll_absent written]
    rfl

theorem get?_putAll_exchange {first second : List (κ × α)}
    (agree : ∀ v w, (key, v) ∈ first → (key, w) ∈ second → v = w) (entries : List (κ × α)) :
    get? key (putAll second (putAll first entries)) = get? key (putAll first (putAll second entries)) := by
  have written {ws : List (κ × α)} {v : α} (found : get? key (putAll ws []) = some v) : (key, v) ∈ ws :=
    (mem_putAll (mem_of_get? found)).resolve_right List.not_mem_nil
  rw [get?_putAll second, get?_putAll first, get?_putAll first (putAll second entries), get?_putAll second entries]
  cases one : get? key (putAll first []) with
  | none => simp
  | some v =>
    cases two : get? key (putAll second []) with
    | none => simp
    | some w => simp [agree v w (written one) (written two)]

theorem put_map {β : Type} (f : α → β) : put key (f value) (entries.map fun e => (e.1, f e.2)) =
    (put key value entries).map fun e => (e.1, f e.2) := by
  induction entries with
  | nil => rfl
  | cons e rest ih =>
    simp only [List.map_cons, put, ih]
    split <;> rfl

theorem putAll_map {β : Type} (f : α → β) (writes entries : List (κ × α)) :
    putAll (writes.map fun w => (w.1, f w.2)) (entries.map fun e => (e.1, f e.2)) =
      (putAll writes entries).map fun e => (e.1, f e.2) := by
  induction writes generalizing entries with
  | nil => rfl
  | cons w rest ih =>
    simp only [putAll, List.map_cons, List.foldl_cons, put_map]
    exact ih (put w.1 w.2 entries)

-- The same keys in the same order, with related values.
abbrev Paired (R : α → α → Prop) (xs ys : List (κ × α)) : Prop :=
  List.Forall₂ (fun x y => x.1 = y.1 ∧ R x.2 y.2) xs ys

variable {R : α → α → Prop} {xs ys : List (κ × α)}

omit [DecidableEq κ] in
theorem Paired.refl (own : ∀ v, R v v) (xs : List (κ × α)) : Paired R xs xs := by
  induction xs with
  | nil => exact .nil
  | cons x rest ih => exact .cons ⟨rfl, own x.2⟩ ih

theorem Paired.put {v w : α} (paired : Paired R xs ys) (related : R v w) :
    Paired R (Entries.put key v xs) (Entries.put key w ys) := by
  induction paired with
  | nil => exact .cons ⟨rfl, related⟩ .nil
  | @cons x y xs ys first rest ih =>
    obtain ⟨k, v'⟩ := x
    obtain ⟨k', w'⟩ := y
    obtain ⟨rfl, kept⟩ := first
    by_cases same : k = key
    · simp only [Entries.put, if_pos same]
      exact .cons ⟨rfl, related⟩ rest
    · simp only [Entries.put, if_neg same]
      exact .cons ⟨rfl, kept⟩ ih

theorem Paired.putAll {vs ws : List (κ × α)} (writes : Paired R vs ws) (paired : Paired R xs ys) :
    Paired R (Entries.putAll vs xs) (Entries.putAll ws ys) := by
  induction writes generalizing xs ys with
  | nil => exact paired
  | @cons v w vs ws first rest ih =>
    obtain ⟨k, v⟩ := v
    obtain ⟨k', w⟩ := w
    obtain ⟨rfl, related⟩ := first
    exact ih (paired.put related)

theorem Paired.get? (paired : Paired R xs ys) (key : κ) :
    Option.Rel R (Entries.get? key xs) (Entries.get? key ys) := by
  induction paired with
  | nil => exact .none
  | @cons x y xs ys first rest ih =>
    obtain ⟨k, v⟩ := x
    obtain ⟨k', w⟩ := y
    obtain ⟨rfl, related⟩ := first
    by_cases same : k = key
    · simp only [Entries.get?, if_pos same]
      exact .some related
    · simp only [Entries.get?, if_neg same]
      exact ih

omit [DecidableEq κ] in
theorem Paired.flatMap {β : Type} {f g : β → List (κ × α)} {zs : List β}
    (each : ∀ z ∈ zs, Paired R (f z) (g z)) : Paired R (zs.flatMap f) (zs.flatMap g) := by
  induction zs with
  | nil => exact .nil
  | cons z rest ih =>
    obtain ⟨first, others⟩ := List.forall_mem_cons.mp each
    exact List.rel_append first (ih others)

end PagedTable.Entries
