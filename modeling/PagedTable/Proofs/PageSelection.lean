import PagedTable.Proofs.AssignmentTarget
import PagedTable.Proofs.Identities
import PagedTable.Proofs.ParentBinding

namespace PagedTable

namespace Value

def idAt (row : Value) (field : String) : Value :=
  match row.identity field with
  | .ok id => id
  | .error _ => .null

theorem identity_error {row : Value} {field : String} {e : Fault} (missing : row.identity field = .error e) :
    e.isBadValue = true := by
  unfold identity at missing
  split at missing <;> cases missing
  rfl

theorem identity_idAt {row : Value} {field : String} (there : (row.idAt field).isNull = false) :
    row.identity field = .ok (row.idAt field) := by
  unfold idAt at there ⊢
  split at there <;> rename_i found
  · rw [found]
  · cases there

theorem isNull_iff {v : Value} : v.isNull = true ↔ v = .null := by
  cases v <;> simp [isNull]

theorem identity_real {row : Value} {field : String} {id : Value} (own : row.identity field = .ok id) :
    id.isNull = false := by
  unfold identity at own
  split at own
  · cases own
  · cases own
    rfl
  · rename_i there _
    cases own
    exact Bool.eq_false_iff.mpr fun null => there (isNull_iff.mp null)

-- The identity of a row is missing, or plain.
def Identified (row : Value) (field : String) : Prop :=
  (row.idAt field).isNull = true ∨ (row.idAt field).isPlain = true

instance (row : Value) (field : String) : Decidable (row.Identified field) :=
  inferInstanceAs (Decidable (_ ∨ _))

theorem Identified.plain {row id : Value} {field : String} (identified : row.Identified field)
    (own : row.identity field = .ok id) : id.isPlain = true := by
  unfold Identified idAt at identified
  rw [own] at identified
  refine identified.resolve_left fun null => ?_
  rw [identity_real own] at null
  cases null

end Value

namespace TableView

variable {field : String} {v v' : TableView}

theorem describe_cached {known : Nat × TableDescriptor}
    (cached : Entries.get? v.mode v.described = some known) : v.describe = (v, .ok known) := by
  unfold describe
  rw [cached]

theorem describe_caches {known : Nat × TableDescriptor} (read : v.describe.2 = .ok known) :
    Entries.get? v.describe.1.mode v.describe.1.described = some known := by
  unfold describe at read ⊢
  split at read <;> rename_i cached
  · cases read
    exact cached
  · split at read
    · cases read
    · cases read
      exact Entries.get?_put_same _ _ _

theorem describe_again {known : Nat × TableDescriptor} (read : v.describe.2 = .ok known) :
    v.describe.1.describe.2 = .ok known := by
  rw [describe_cached (describe_caches read)]

section Pages

theorem known_identity (row : Value) (field : String) :
    known (row.identity field) = .ok (row.idAt field) := by
  unfold Value.idAt
  cases found : row.identity field with
  | ok id => rfl
  | error e => simp [known, Value.identity_error found]

theorem identified_ok {n : Nat} {d : TableDescriptor} (read : v.describe.2 = .ok (n, d))
    (lies : d.table.rowIdField = field) (rows : List Value) :
    (v.identified rows).2 = .ok (rows.map fun row => (row.idAt field, row)) := by
  induction rows generalizing v with
  | nil => rfl
  | cons row rest ih =>
    have known : v.rowId row = (v.describe.1, row.identity field) := by
      rcases both : v.describe with ⟨u, outcome⟩
      rw [both] at read
      cases read
      simp only [rowId, both, lies]
    have later := ih (describe_again read)
    unfold identified
    rw [known]
    dsimp only
    rw [known_identity]
    rcases others : v.describe.1.identified rest with ⟨u, outcome⟩
    rw [others] at later
    cases later
    rfl

theorem surviving_kept {n : Nat} {d : TableDescriptor} (read : v.describe.2 = .ok (n, d))
    (lies : d.table.rowIdField = field) (rows : List Value) :
    let ids := rows.map fun row => row.idAt field
    (v.surviving true rows).2 =
      (allHashable ids).map fun _ => common v.selected (Members.ofList ids) := by
  intro ids
  have pairs := identified_ok read lies rows
  have selected := (identified_described v rows).steady.selected
  rcases both : v.identified rows with ⟨u, outcome⟩
  rw [both] at pairs selected
  cases pairs
  dsimp only at selected
  simp only [surviving, if_true, both, List.map_map, selected]
  rfl

variable {selected ids : List Value}

theorem mem_common {x : Value} (member : x ∈ common selected (Members.ofList ids)) :
    (x ∈ selected ∧ ∃ own ∈ ids, own.same x = true) ∨ (x ∈ ids ∧ ∃ z ∈ selected, z.same x = true) := by
  unfold common at member
  split at member
  · obtain ⟨chosen, has⟩ := List.mem_filter.mp member
    obtain ⟨own, known, same⟩ := Members.has_iff.mp has
    exact .inl ⟨chosen, own, Members.mem_ofList known, same⟩
  · obtain ⟨known, has⟩ := List.mem_filter.mp member
    exact .inr ⟨Members.mem_ofList known, Members.has_iff.mp has⟩

theorem common_fewer : (common selected (Members.ofList ids)).length ≤ selected.length := by
  unfold common
  split <;> rename_i fewer
  · exact List.length_filter_le _ _
  · exact Nat.le_trans (List.length_filter_le _ _) (Nat.le_of_not_lt fewer)

theorem common_none : common [] (Members.ofList ids) = [] :=
  List.eq_nil_iff_forall_not_mem.mpr fun x member => by
    rcases mem_common member with ⟨chosen, -⟩ | ⟨-, z, chosen, -⟩ <;> cases chosen

theorem common_real (real : ∀ z ∈ selected, z.isNull = false) {x : Value}
    (member : x ∈ common selected (Members.ofList ids)) : x.isNull = false := by
  rcases mem_common member with ⟨chosen, -⟩ | ⟨-, z, chosen, same⟩
  · exact real x chosen
  · refine Bool.eq_false_iff.mpr fun null => ?_
    rw [Value.isNull_iff.mp null] at same
    have missing := real z chosen
    rw [Value.same_null.mp same] at missing
    cases missing

theorem common_present (hashable : Value.allHashable ids = true)
    (real : ∀ z ∈ selected, z.isNull = false) {x : Value}
    (member : x ∈ common selected (Members.ofList ids)) :
    ∃ own ∈ ids, own.isNull = false ∧ own.same x = true := by
  have there := common_real real member
  rcases mem_common member with ⟨-, own, known, same⟩ | ⟨known, -⟩
  · refine ⟨own, known, Bool.eq_false_iff.mpr fun null => ?_, same⟩
    rw [Value.isNull_iff.mp null] at same
    rw [Value.null_same.mp same] at there
    cases there
  · exact ⟨x, known, there, Value.same_refl x (Value.allHashable_iff.mp hashable _ known)⟩

theorem common_covers (hashable : Value.allHashable ids = true)
    (real : ∀ z ∈ selected, z.isNull = false)
    (same : Members.same (common selected (Members.ofList ids)) selected = true) {z : Value}
    (chosen : z ∈ selected) : ∃ own ∈ ids, own.isNull = false ∧ own.same z = true := by
  have large : (common selected (Members.ofList ids)).length = selected.length := by
    simp only [Members.same, Bool.and_eq_true, beq_iff_eq] at same
    exact same.1
  -- the common part is drawn from the smaller of the two sets
  by_cases fewer : selected.length < (Members.ofList ids).length
  · have kept : common selected (Members.ofList ids) = Members.meet selected (Members.ofList ids) :=
      if_pos fewer
    rw [kept] at large
    have all : Members.meet selected (Members.ofList ids) = selected :=
      List.filter_eq_self.mpr (List.length_filter_eq_length_iff.mp large)
    refine common_present hashable real ?_
    rw [kept, all]
    exact chosen
  · have kept : common selected (Members.ofList ids) = Members.meet (Members.ofList ids) selected :=
      if_neg fewer
    -- drawn from the page, its members are told apart and are as many as were selected
    have sound {x : Value} (member : x ∈ common selected (Members.ofList ids)) :
        x ∈ ids ∧ x.isNull = false ∧ x.hashable = true := by
      have there := common_real real member
      rw [kept] at member
      have known := Members.mem_ofList (List.mem_filter.mp member).1
      exact ⟨known, there, Value.allHashable_iff.mp hashable _ known⟩
    have apart : Members.Apart (common selected (Members.ofList ids)) := by
      rw [kept]
      exact (Members.ofList_apart ids).filter _
    have drawn : ∀ x ∈ common selected (Members.ofList ids), ∃ z ∈ selected, z.same x = true := by
      rw [kept]
      exact fun x member => Members.has_iff.mp (List.mem_filter.mp member).2
    obtain ⟨x, member, equal⟩ := apart.covers drawn
      (fun x one y _ z => Value.same_of_same x y z (sound one).2.2)
      (Nat.le_of_eq large.symm) z chosen
    obtain ⟨known, there, member⟩ := sound member
    exact ⟨x, known, there, (Value.same_comm x z member).symm.trans equal⟩

end Pages

theorem row_of_id {rows : List Value} {own : Value} (member : own ∈ rows.map fun row => row.idAt field)
    (there : own.isNull = false) : ∃ row ∈ rows, row.identity field = .ok own := by
  obtain ⟨row, inside, rfl⟩ := List.mem_map.mp member
  exact ⟨row, inside, Value.identity_idAt there⟩

theorem plain_ids {rows : List Value} (identified : ∀ row ∈ rows, row.Identified field) :
    ∀ own ∈ rows.map fun row => row.idAt field, own = .null ∨ own.isPlain = true := by
  intro own member
  obtain ⟨row, inside, rfl⟩ := List.mem_map.mp member
  exact (identified row inside).imp_left Value.isNull_iff.mp

theorem plain_hashable {ids : List Value} (plain : ∀ own ∈ ids, own = .null ∨ own.isPlain = true) :
    Value.allHashable ids = true := by
  refine Value.allHashable_iff.mpr fun own member => ?_
  rcases plain own member with rfl | plain
  · simp [Value.hashable]
  · exact Value.isPlain_hashable own plain

theorem surviving_common {rows selected : List Value}
    (survives : (v.surviving true rows).2 = .ok selected) : ∃ ids, selected = common v.selected (Members.ofList ids) := by
  have steady := (identified_described v rows).steady.selected
  rcases both : v.identified rows with ⟨u, e | pairs⟩
  · simp only [surviving, if_true, both] at survives
    cases survives
  · rw [both] at steady
    dsimp only at steady
    simp only [surviving, if_true, both, steady] at survives
    cases hashable : allHashable (pairs.map fun p => p.1) with
    | error e => simp [hashable, Except.map] at survives
    | ok => exact ⟨_, by simpa [hashable, Except.map] using survives.symm⟩

theorem surviving_cases {rows selected : List Value} (read : v.selected ≠ [] →
      ∃ n d, v.describe.2 = .ok (n, d) ∧ d.table.rowIdField = field)
    (survives : (v.surviving true rows).2 = .ok selected) :
    selected = [] ∨ selected = common v.selected (Members.ofList (rows.map fun row => row.idAt field)) := by
  by_cases none : v.selected = []
  · obtain ⟨ids, rfl⟩ := surviving_common survives
    rw [none]
    exact .inl common_none
  · obtain ⟨n, d, described, lies⟩ := read none
    have kept := surviving_kept described lies rows
    rw [survives] at kept
    cases hashable : allHashable (rows.map fun row => row.idAt field) with
    | error e => simp [hashable, Except.map] at kept
    | ok => exact .inr (by simpa [hashable, Except.map] using kept)

theorem Left.none {page : Page} {keep : Bool} {xs : List Value} (left : v.Left page keep xs)
    (gone : ({ v with rows := page.rows, total := page.total }.surviving keep page.rows).2 = .ok []) :
    xs = [] := by
  cases left with
  | untold survives => cases gone.symm.trans survives
  | same survives same =>
    cases gone.symm.trans survives
    simp only [Members.same, Bool.and_eq_true, beq_iff_eq, List.length_nil] at same
    exact List.eq_nil_of_length_eq_zero same.1.symm
  | other survives =>
    cases gone.symm.trans survives
    rfl

structure Survivors (field : String) (v : TableView) (page : Page) (keep : Bool) (xs : List Value) :
    Prop where
  kept : xs ≠ [] → keep = true ∧ v.selected ≠ []
  real : ∀ id ∈ xs, id.isNull = false
  present : (∀ row ∈ page.rows, row.Identified field) → ∀ id ∈ xs,
    ∃ row ∈ page.rows, ∃ own, row.identity field = .ok own ∧ own.same id = true

theorem Survivors.none (page : Page) (keep : Bool) : v.Survivors field page keep [] where
  kept some := absurd rfl some
  real _ member := nomatch member
  present _ _ member := nomatch member

theorem Survivors.of_ids {page : Page} {xs : List Value} (some : xs ≠ [] → v.selected ≠ [])
    (real : ∀ id ∈ xs, id.isNull = false) (present : (∀ row ∈ page.rows, row.Identified field) →
      ∀ id ∈ xs, ∃ own ∈ page.rows.map fun row => row.idAt field,
        own.isNull = false ∧ own.same id = true) : v.Survivors field page true xs := by
  refine ⟨fun chosen => ⟨rfl, some chosen⟩, real, fun identified id member => ?_⟩
  obtain ⟨own, known, there, same⟩ := present identified id member
  obtain ⟨row, inside, found⟩ := row_of_id known there
  exact ⟨row, inside, own, found, same⟩

theorem Left.survivors {page : Page} {keep : Bool} {xs : List Value} (left : v.Left page keep xs)
    (real : ∀ id ∈ v.selected, id.isNull = false)
    (known : v.selected ≠ [] → ∃ n d, Entries.get? v.mode v.described = some (n, d) ∧
      d.table.rowIdField = field) : v.Survivors field page keep xs := by
  let u : TableView := { v with rows := page.rows, total := page.total }
  have described (some : u.selected ≠ []) : ∃ n d, u.describe.2 = .ok (n, d) ∧
      d.table.rowIdField = field := by
    obtain ⟨n, d, cached, lies⟩ := known some
    exact ⟨n, d, by rw [describe_cached (v := u) cached], lies⟩
  cases keep with
  | false =>
    rw [left.none rfl]
    exact .none page false
  | true =>
    cases left with
    | untold survives =>
      refine .of_ids id real fun identified id member => ?_
      -- on a page of plain identities nothing can be amiss
      obtain ⟨n, d, described, lies⟩ := described (List.ne_nil_of_mem member)
      have ok := survives.symm.trans (surviving_kept described lies page.rows)
      rw [allHashable, if_pos (plain_hashable (plain_ids identified))] at ok
      cases ok
    | same survives same =>
      rcases surviving_cases described survives with rfl | rfl
      · rw [Left.none (.same survives same) survives]
        exact .none page true
      · exact .of_ids id real fun identified z member =>
          common_covers (plain_hashable (plain_ids identified)) real same member
    | other survives =>
      rcases surviving_cases described survives with rfl | rfl
      · exact .none page true
      · refine .of_ids (fun some empty => some ?_) (fun z member => common_real real member)
          fun identified z member => common_present (plain_hashable (plain_ids identified)) real member
        change common v.selected _ = []
        rw [empty, common_none]

theorem pick_drawn {wanted picked chosen : List Value} {multiple : Bool} {pairs : List (Value × Value)}
    (picks : pick wanted multiple picked pairs = .ok chosen) {id : Value} (member : id ∈ chosen) :
    id ∈ picked ∨ id.isNull = false ∧ ∃ row, (id, row) ∈ pairs ∧ row.selectable = true := by
  induction pairs generalizing picked with
  | nil =>
    cases picks
    exact .inl member
  | cons pair rest ih =>
    obtain ⟨own, row⟩ := pair
    have later {picked : List Value} (picks : pick wanted multiple picked rest = .ok chosen) :
        id ∈ picked ∨ id.isNull = false ∧
          ∃ other, (id, other) ∈ (own, row) :: rest ∧ other.selectable = true := by
      refine (ih picks).imp_right ?_
      rintro ⟨there, other, inside, free⟩
      exact ⟨there, other, List.mem_cons_of_mem _ inside, free⟩
    unfold pick at picks
    split at picks
    · exact later picks
    · rename_i there
      have there := Bool.eq_false_iff.mpr there
      split at picks
      · cases picks
      · split at picks
        · rename_i chooses
          have added (known : id ∈ Members.add picked own) : id ∈ picked ∨ id.isNull = false ∧
              ∃ other, (id, other) ∈ (own, row) :: rest ∧ other.selectable = true := by
            rcases Members.add_subset known with before | rfl
            · exact .inl before
            · exact .inr ⟨there, row, List.mem_cons_self, (Bool.and_eq_true _ _ ▸ chooses).2⟩
          split at picks
          · rcases later picks with known | drawn
            · exact added known
            · exact .inr drawn
          · cases picks
            exact added member
        · exact later picks

theorem pick_single {wanted chosen : List Value} {pairs : List (Value × Value)}
    (picks : pick wanted false [] pairs = .ok chosen) : chosen.length ≤ 1 := by
  induction pairs with
  | nil =>
    cases picks
    exact Nat.zero_le 1
  | cons pair rest ih =>
    unfold pick at picks
    split at picks
    · exact ih picks
    · split at picks
      · cases picks
      · split at picks
        · cases picks
          exact Nat.le_refl 1
        · exact ih picks

theorem selection_some {ids chosen : List Value} (allowed : (v.selection ids).2 = .ok (some chosen)) :
    ∃ n d pairs, v.describe.2 = .ok (n, d) ∧ d.table.rowSelection.enabled = true ∧
      v.describe.1.identified v.describe.1.rows = ((v.selection ids).1, .ok pairs) ∧
      pick (Members.ofList ids) d.table.rowSelection.multiple [] pairs = .ok chosen := by
  rcases read : v.describe with ⟨u, e | ⟨n, d⟩⟩
  · simp [selection, read] at allowed
  · cases enabled : d.table.rowSelection.enabled with
    | false => simp [selection, read, enabled] at allowed
    | true =>
      cases hashable : allHashable ids with
      | error e => simp [selection, read, enabled, hashable] at allowed
      | ok =>
        rcases both : u.identified u.rows with ⟨x, e | pairs⟩
        · simp [selection, read, enabled, hashable, both] at allowed
        · cases picks : pick (Members.ofList ids) d.table.rowSelection.multiple [] pairs with
          | error e => simp [selection, read, enabled, hashable, both, picks, Except.map] at allowed
          | ok picked =>
            simp only [selection, read, enabled, hashable, both, picks, Except.map, Bool.not_true,
              Bool.false_eq_true, if_false, Except.ok.injEq, Option.some.injEq] at allowed
            cases allowed
            exact ⟨n, d, pairs, rfl, enabled, by simp [selection, read, enabled, hashable, both], picks⟩

theorem selection_chosen {ids chosen : List Value} (allowed : (v.selection ids).2 = .ok (some chosen)) :
    ∃ n d, Entries.get? v.mode (v.selection ids).1.described = some (n, d) ∧
      d.table.rowSelection.enabled = true ∧
      (∀ id ∈ chosen, ∃ row ∈ v.rows, row.selectable = true ∧ row.identity d.table.rowIdField = .ok id) ∧
      (d.table.rowSelection.multiple = false → chosen.length ≤ 1) := by
  obtain ⟨n, d, pairs, read, enabled, identified, picks⟩ := selection_some allowed
  let u := v.describe.1
  have first : Steady v u := describe_steady v
  have second : Steady u (v.selection ids).1 := by
    have described := (identified_described u u.rows).steady
    rw [identified] at described
    exact described
  have pairs_eq : pairs = u.rows.map fun row => (row.idAt d.table.rowIdField, row) := by
    have ok := identified_ok (describe_again read) rfl u.rows
    rw [identified] at ok
    exact Except.ok.inj ok
  refine ⟨n, d, ?_, enabled, fun id member => ?_, fun single => ?_⟩
  · have cached : Entries.get? u.mode u.described = some (n, d) := describe_caches read
    rw [← first.mode]
    exact second.cached _ cached
  · obtain ⟨there, row, inside, free⟩ := (pick_drawn picks member).resolve_left List.not_mem_nil
    rw [pairs_eq] at inside
    obtain ⟨other, known, same⟩ := List.mem_map.mp inside
    obtain ⟨rfl, rfl⟩ := Prod.mk.inj same
    exact ⟨other, first.rows.1 ▸ known, free, Value.identity_idAt there⟩
  · rw [single] at picks
    exact pick_single picks

end TableView

namespace Application

def selectable : TableSheet :=
  { table := some (.ok { rowSelection := { enabled := true, multiple := true } }) }

end Application

end PagedTable
