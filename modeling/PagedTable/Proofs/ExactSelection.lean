import PagedTable.Proofs.ConfirmedSelection
import PagedTable.Proofs.RequestQueries
import PagedTable.Proofs.Scene

namespace PagedTable

namespace Members

variable {xs ys : List Value}

theorem agree_hashable (hashable : ∀ x ∈ xs, x.hashable = true) : ∀ x ∈ xs, ∀ y ∈ xs, ∀ z : Value,
    z.same x = true → z.same y = true → x.same y = true := by
  intro x member y _ z one two
  exact Value.same_trans (hashable x member) ((Value.same_comm x z (hashable x member)).symm.trans one) two

theorem Apart.length_le (apart : Apart xs) (hashable : ∀ x ∈ xs, x.hashable = true)
    (drawn : ∀ x ∈ xs, ∃ z ∈ ys, z.same x = true) : xs.length ≤ ys.length := by
  cases xs with
  | nil => exact Nat.zero_le _
  | cons x rest =>
    refine Nat.lt_of_not_le fun large => ?_
    obtain ⟨first, others⟩ : (∀ y ∈ rest, x.same y = false) ∧ Apart rest := List.pairwise_cons.mp apart
    obtain ⟨z, member, same⟩ := drawn x List.mem_cons_self
    have covered := others.covers (fun y later => drawn y (List.mem_cons_of_mem x later))
      (agree_hashable fun y later => hashable y (List.mem_cons_of_mem x later)) large
    obtain ⟨y, later, equal⟩ := covered z member
    have shared := agree_hashable hashable x List.mem_cons_self y (List.mem_cons_of_mem x later) z same equal
    rw [first y later] at shared
    cases shared

theorem same_iff (left : Apart xs) (right : Apart ys) (hashable : ∀ x ∈ xs, x.hashable = true)
    (others : ∀ y ∈ ys, y.hashable = true) : same xs ys = true ↔ ∀ x, has x xs = has x ys := by
  unfold same
  rw [Bool.and_eq_true, beq_iff_eq, List.all_eq_true]
  constructor
  · rintro ⟨length, drawn⟩ v
    have covered := left.covers (fun x member => has_iff.mp (drawn x member)) (agree_hashable hashable)
      (Nat.le_of_eq length.symm)
    rw [Bool.eq_iff_iff, has_iff, has_iff]
    constructor
    · rintro ⟨x, member, same⟩
      obtain ⟨y, there, equal⟩ := has_iff.mp (drawn x member)
      exact ⟨y, there, Value.same_trans (others y there) equal same⟩
    · rintro ⟨y, member, same⟩
      obtain ⟨x, there, equal⟩ := covered y member
      have back : x.same y = true := (Value.same_comm x y (hashable x there)).symm.trans equal
      exact ⟨x, there, Value.same_trans (hashable x there) back same⟩
  · intro agree
    have drawn : ∀ x ∈ xs, has x ys = true := fun x member =>
      (agree x).symm.trans (has_iff.mpr ⟨x, member, Value.same_refl x (hashable x member)⟩)
    have back : ∀ y ∈ ys, has y xs = true := fun y member =>
      (agree y).trans (has_iff.mpr ⟨y, member, Value.same_refl y (others y member)⟩)
    exact ⟨Nat.le_antisymm (left.length_le hashable fun x member => has_iff.mp (drawn x member))
      (right.length_le others fun y member => has_iff.mp (back y member)), drawn⟩

end Members

def Value.isWanted (field : String) (ids : List Value) (row : Value) : Bool :=
  row.selectable &&
    match row.identity field with
    | .ok id => Members.has id ids
    | .error _ => false

namespace TableDescriptor

-- The rows of a page that asking for some identities chooses.
def chosen (d : TableDescriptor) (rows ids : List Value) : List Value :=
  if d.table.rowSelection.multiple then rows.filter (Value.isWanted d.table.rowIdField ids)
  else (rows.find? (Value.isWanted d.table.rowIdField ids)).toList

variable (d : TableDescriptor) {row : Value} {ids : List Value} (rest : List Value)

theorem chosen_wanted (wanted : row.isWanted d.table.rowIdField ids = true) : d.chosen (row :: rest) ids =
    row :: if d.table.rowSelection.multiple then d.chosen rest ids else [] := by
  unfold chosen
  rw [List.filter_cons_of_pos wanted, List.find?_cons_of_pos wanted]
  cases d.table.rowSelection.multiple <;> rfl

theorem chosen_passed (passed : row.isWanted d.table.rowIdField ids = false) :
    d.chosen (row :: rest) ids = d.chosen rest ids := by
  unfold chosen
  rw [List.filter_cons_of_neg (Bool.not_eq_true _ ▸ passed), List.find?_cons_of_neg (Bool.not_eq_true _ ▸ passed)]

end TableDescriptor

namespace TableView

variable {field : String} {rows ids : List Value}

theorem isWanted_idAt (field : String) (ids : List Value) (row : Value) : row.isWanted field ids =
    (row.selectable && (!(row.idAt field).isNull && Members.has (row.idAt field) ids)) := by
  unfold Value.isWanted
  cases own : row.identity field with
  | ok id =>
    have at_id : row.idAt field = id := by rw [Value.idAt, own]
    rw [at_id, Value.identity_real own]
    rfl
  | error e =>
    have at_null : row.idAt field = .null := by rw [Value.idAt, own]
    rw [at_null]
    rfl

theorem pick_cons (asked : ∀ id ∈ ids, id.hashable = true) {row : Value}
    (own : (row.idAt field).hashable = true) (multiple : Bool) (picked : List Value)
    (rest : List (Value × Value)) :
    pick (Members.ofList ids) multiple picked ((row.idAt field, row) :: rest) =
      if row.isWanted field ids then
        if multiple then pick (Members.ofList ids) multiple (Members.add picked (row.idAt field)) rest
        else .ok (Members.add picked (row.idAt field))
      else pick (Members.ofList ids) multiple picked rest := by
  rw [pick, isWanted_idAt, isAmong_hashable own, Members.has_ofList asked]
  cases (row.idAt field).isNull <;> cases Members.has (row.idAt field) ids <;> cases row.selectable <;> rfl

theorem pick_chosen (d : TableDescriptor) (asked : ∀ id ∈ ids, id.hashable = true)
    (identities : ∀ row ∈ rows, (row.idAt d.table.rowIdField).hashable = true) (picked : List Value) :
    pick (Members.ofList ids) d.table.rowSelection.multiple picked
        (rows.map fun row => (row.idAt d.table.rowIdField, row)) =
      .ok (((d.chosen rows ids).map fun row => row.idAt d.table.rowIdField).foldl Members.add picked) := by
  induction rows generalizing picked with
  | nil =>
    unfold TableDescriptor.chosen
    cases d.table.rowSelection.multiple <;> rfl
  | cons row rest ih =>
    obtain ⟨own, later⟩ := List.forall_mem_cons.mp identities
    rw [List.map_cons, pick_cons asked own]
    cases wanted : row.isWanted d.table.rowIdField ids with
    | true =>
      rw [if_pos rfl, d.chosen_wanted rest wanted, ih later]
      cases d.table.rowSelection.multiple <;> rfl
    | false => rw [if_neg Bool.false_ne_true, d.chosen_passed rest wanted, ih later]

theorem chosen_from (d : TableDescriptor) {row : Value} (member : row ∈ d.chosen rows ids) :
    row ∈ rows ∧ row.isWanted d.table.rowIdField ids = true := by
  unfold TableDescriptor.chosen at member
  split at member
  · exact List.mem_filter.mp member
  · have first := Option.mem_toList.mp member
    exact ⟨List.mem_of_find?_eq_some first, List.find?_some first⟩

theorem isWanted_iff {row : Value} : row.isWanted field ids = true ↔
    row.selectable = true ∧ (row.idAt field).isNull = false ∧ Members.has (row.idAt field) ids = true := by
  rw [isWanted_idAt, Bool.and_eq_true, Bool.and_eq_true, Bool.not_eq_true']

theorem chosen_again (d : TableDescriptor) (asked : ∀ id ∈ ids, id.hashable = true)
    (identities : ∀ row ∈ rows, (row.idAt d.table.rowIdField).hashable = true) {selected : List Value}
    (exact : ∀ x, Members.has x selected = true ↔
      ∃ row ∈ d.chosen rows ids, (row.idAt d.table.rowIdField).same x = true) :
    d.chosen rows selected = d.chosen rows ids := by
  have fewer : ∀ row ∈ rows, row.isWanted d.table.rowIdField selected = true →
      row.isWanted d.table.rowIdField ids = true := by
    intro row member wanted
    obtain ⟨free, there, has⟩ := isWanted_iff.mp wanted
    obtain ⟨other, chosen, same⟩ := (exact _).mp has
    obtain ⟨-, -, known⟩ := isWanted_iff.mp (chosen_from d chosen).2
    obtain ⟨id, inside, equal⟩ := Members.has_iff.mp known
    exact isWanted_iff.mpr ⟨free, there,
      Members.has_iff.mpr ⟨id, inside, Value.same_trans (asked id inside) equal same⟩⟩
  have again : ∀ row ∈ d.chosen rows ids, row.isWanted d.table.rowIdField selected = true := by
    intro row chosen
    obtain ⟨member, wanted⟩ := chosen_from d chosen
    obtain ⟨free, there, -⟩ := isWanted_iff.mp wanted
    exact isWanted_iff.mpr ⟨free, there, (exact _).mpr ⟨row, chosen, Value.same_refl _ (identities row member)⟩⟩
  unfold TableDescriptor.chosen at again ⊢
  split at again <;> rename_i mode
  · rw [if_pos mode, if_pos mode]
    refine List.filter_congr fun row member => Bool.eq_iff_iff.mpr ⟨fewer row member, fun wanted => ?_⟩
    exact again row (List.mem_filter.mpr ⟨member, wanted⟩)
  · rw [if_neg mode, if_neg mode]
    refine congrArg Option.toList ?_
    cases first : rows.find? (Value.isWanted d.table.rowIdField ids) with
    | none =>
      have none := List.find?_eq_none.mp first
      exact List.find?_eq_none.mpr fun row member wanted => none row member (fewer row member wanted)
    | some row =>
      obtain ⟨-, before, after, split, passed⟩ := List.find?_eq_some_iff_append.mp first
      refine List.find?_eq_some_iff_append.mpr ⟨again row ?_, before, after, split, fun other earlier => ?_⟩
      · rw [first]
        exact List.mem_singleton_self row
      · have unwanted := Bool.not_eq_true' _ ▸ passed other earlier
        refine Bool.not_eq_true' _ ▸ Bool.eq_false_iff.mpr fun wanted => ?_
        have member : other ∈ rows := split ▸ List.mem_append_left _ earlier
        rw [fewer other member wanted] at unwanted
        cases unwanted

variable {v : TableView} {n : Nat} {d : TableDescriptor}

theorem selection_exact (read : v.describe.2 = .ok (n, d)) (asked : ∀ id ∈ ids, id.hashable = true)
    (identities : ∀ row ∈ v.rows, (row.idAt d.table.rowIdField).hashable = true) :
    v.selection ids = (v.describe.1, .ok (if d.table.rowSelection.enabled then
      some (Members.ofList ((d.chosen v.rows ids).map fun row => row.idAt d.table.rowIdField)) else none)) := by
  have cached : v.describe.1.describe = (v.describe.1, .ok (n, d)) := describe_cached (describe_caches read)
  have rows : v.describe.1.rows = v.rows := (describe_kept v).rows.1
  have identified : v.describe.1.identified v.rows =
      (v.describe.1, .ok (v.rows.map fun row => (row.idAt d.table.rowIdField, row))) :=
    Prod.ext (described_again cached (identified_described _ _)) (identified_ok (by rw [cached]) rfl _)
  have described : v.describe = (v.describe.1, .ok (n, d)) := Prod.ext rfl read
  unfold selection
  rw [described]
  dsimp only
  cases d.table.rowSelection.enabled with
  | false => rfl
  | true =>
    unfold allHashable
    rw [if_pos (Value.allHashable_iff.mpr asked)]
    dsimp only
    rw [rows, identified]
    dsimp only
    rw [pick_chosen d asked identities]
    rfl

theorem chosen_hashable (identities : ∀ row ∈ rows, (row.idAt d.table.rowIdField).hashable = true) :
    ∀ id ∈ (d.chosen rows ids).map fun row => row.idAt d.table.rowIdField, id.hashable = true := by
  intro id member
  obtain ⟨row, chosen, rfl⟩ := List.mem_map.mp member
  exact identities row (chosen_from d chosen).1

theorem has_chosen (identities : ∀ row ∈ rows, (row.idAt d.table.rowIdField).hashable = true) (x : Value) :
    Members.has x (Members.ofList ((d.chosen rows ids).map fun row => row.idAt d.table.rowIdField)) = true ↔
      ∃ row ∈ d.chosen rows ids, (row.idAt d.table.rowIdField).same x = true := by
  rw [Members.has_ofList (chosen_hashable identities), Members.has, List.any_map, List.any_eq_true]
  rfl

theorem common_apart {selected ids : List Value} (apart : Members.Apart selected) :
    Members.Apart (common selected (Members.ofList ids)) := by
  unfold common
  split
  · exact apart.filter _
  · exact (Members.ofList_apart ids).filter _

theorem apart_lawful : SelectionLaw Members.Apart where
  none := .nil
  picked picks := by
    obtain ⟨ids, -, rfl⟩ := pick_adds picks
    exact Members.ofList_apart ids
  survives _ before := common_apart before

end TableView

namespace Application
open Strand

variable {w : Application} {key : Nat} {n : Nat} {d : TableDescriptor} {ids : List Value}

theorem modifyView_described {v : TableView} (shows : w.view key = v)
    (described : v.describe = (v, .ok (n, d))) : (w.modifyView key fun _ => v) = w := by
  have cached : Entries.get? v.mode v.described = some (n, d) := by
    have kept := TableView.describe_caches (congrArg Prod.snd described)
    rwa [described] at kept
  cases there : Entries.get? key w.tables with
  | none =>
    have missing : w.view key = ({} : Table).view := by
      unfold view table
      rw [there]
      rfl
    rw [← shows, missing] at cached
    cases cached
  | some t =>
    have same : w.table key = t := by
      unfold table
      rw [there]
      rfl
    have put : Entries.put key { t with view := v } w.tables = w.tables := by
      rw [← shows, view, same]
      exact Entries.put_found there
    unfold modifyView modifyTable setTable
    rw [same, put]

def chooseNext (run : Run) (key : Nat) : Option (List Value) → Application → Application
  | none, w => w
  | some picked, w => setSelection run key picked w

theorem select_outcome (run : Run) {next : Option (List Value)}
    (selects : (w.view key).selection ids = ((w.view key).describe.1, .ok next)) :
    (select run key ids).outcome w =
      (.ok (.ids ((chooseNext run key next (w.describing key)).view key).selected),
        chooseNext run key next (w.describing key)) := by
  unfold select
  rw [Act.outcome_bind, outcome_onView, selects]
  cases next <;> rfl

-- What selecting comes to when the view it leaves is known: nothing is told where the selection is the same
-- set; otherwise the table changes, that is told once, and those who wait for it run their scripts.
inductive TakesEffect (run : Run) (key : Nat) (w : Application) (v : TableView) : Application → Prop where
  | silent (same : v.selected = (w.view key).selected) : TakesEffect run key w v (w.modifyView key fun _ => v)
  | told (changed : ∃ x, Members.has x v.selected ≠ Members.has x (w.view key).selected)
      (shows : u.table key = { w.table key with view := v }) (others : ∀ k, k ≠ key → u.table k = w.table k)
      (journal : u.journal = .seen key v.rows.length v.total v.selected.length ::
        .signal key .selectionChanged :: w.journal) :
      TakesEffect run key w v ((w.waiting key .selectionChanged).foldl (fun u s => follow run s.steps u) u)

theorem TakesEffect.view {run : Run} {v : TableView} {u : Application} (takes : TakesEffect run key w v u)
    (observing : Observing run) : u.view key = v := by
  cases takes with
  | silent same => exact view_modifyView _
  | told changed shows others journal =>
    refine Eq.trans ?_ (congrArg Table.view shows)
    exact congrArg (fun s : Scene => (s.tables key).view) (scene_slots observing _ _)

theorem select_again (run : Run) {v : TableView} {selected : List Value} (read : v.describe.2 = .ok (n, d))
    (shows : w.view key = { v.describe.1 with selected })
    (identities : ∀ row ∈ v.rows, (row.idAt d.table.rowIdField).hashable = true)
    (asked : ∀ id ∈ ids, id.hashable = true) (hashable : ∀ id ∈ selected, id.hashable = true)
    (apart : Members.Apart selected)
    (exact : d.table.rowSelection.enabled = true → ∀ x, Members.has x selected = true ↔
      ∃ row ∈ d.chosen v.rows ids, (row.idAt d.table.rowIdField).same x = true) :
    (select run key selected).outcome w = (.ok (.ids selected), w) := by
  have described : (w.view key).describe = (w.view key, .ok (n, d)) := by
    rw [shows]
    exact TableView.describe_cached (TableView.describe_caches read)
  have rows : (w.view key).rows = v.rows := by
    rw [shows]
    exact (TableView.describe_steady v).rows.1
  have same : w.describing key = w := by
    unfold describing
    rw [described]
    exact modifyView_described rfl described
  have kept : chooseNext run key (if d.table.rowSelection.enabled then some (Members.ofList
      ((d.chosen v.rows selected).map fun row => row.idAt d.table.rowIdField)) else none) w = w := by
    split
    · rename_i enabled
      have again := TableView.chosen_again d asked identities (exact enabled)
      refine if_pos ((Members.same_iff (Members.ofList_apart _) ?_ ?_ ?_).mpr fun x => ?_)
      · rw [shows]
        exact apart
      · exact fun id member => TableView.chosen_hashable identities id (Members.mem_ofList member)
      · rw [shows]
        exact hashable
      · rw [shows, Bool.eq_iff_iff, TableView.has_chosen identities, again]
        exact (exact enabled x).symm
    · rfl
  have selects := TableView.selection_exact (v := w.view key) (congrArg Prod.snd described) hashable
    (rows ▸ identities)
  rw [select_outcome run selects, same, rows, kept, shows]

theorem describing_selected (key : Nat) (w : Application) :
    ((w.describing key).view key).selected = (w.view key).selected := by
  rw [describing_view]
  exact (TableView.describe_steady _).selected

theorem setSelection_same (run : Run) {picked : List Value}
    (same : Members.same picked (w.view key).selected = true) :
    setSelection run key picked (w.describing key) = w.describing key :=
  if_pos (by rw [describing_selected, same])

theorem setSelection_takes (run : Run) {picked : List Value}
    (changed : ∃ x, Members.has x picked ≠ Members.has x (w.view key).selected)
    (other : Members.same picked (w.view key).selected = false) :
    TakesEffect run key w { (w.view key).describe.1 with selected := picked }
      (setSelection run key picked (w.describing key)) := by
  let v : TableView := { (w.view key).describe.1 with selected := picked }
  let set := (w.describing key).modifyView key fun v => { v with selected := picked }
  let told := (((set.record (.signal key .selectionChanged)).sight key (.emitted .selectionChanged)).look
    key).unplug key .selectionChanged
  have shows : set.table key = { w.table key with view := v } := by
    unfold set describing modifyView
    rw [table_modifyTable, table_modifyTable]
  have others (k : Nat) (apart : k ≠ key) : told.table k = w.table k := by
    change set.table k = _
    unfold set describing modifyView
    rw [table_modifyTable_other apart, table_modifyTable_other apart]
  have journal : told.journal = .seen key (set.view key).rows.length (set.view key).total
      (set.view key).selected.length :: .signal key .selectionChanged :: w.journal := rfl
  have emitted : setSelection run key picked (w.describing key) =
      (w.waiting key .selectionChanged).foldl (fun u s => follow run s.steps u) told := by
    unfold setSelection
    rw [describing_selected, if_neg (by simp [other])]
    rfl
  rw [emitted]
  rw [view, shows] at journal
  exact .told changed shows others journal

-- Selecting, whatever is under way, where the table can be described and identities may be members of a set.
-- The selection becomes the identities of the chosen rows, or stays as it is where rows cannot be selected;
-- it is told once if it is another set, and not at all otherwise; and to select it again changes nothing.
theorem select_exact (arises : w.Arises key) (run : Run) (read : (w.view key).describe.2 = .ok (n, d))
    (identities : ∀ row ∈ (w.view key).rows, (row.idAt d.table.rowIdField).hashable = true)
    (asked : ∀ id ∈ ids, id.hashable = true) :
    ∃ v u, v = { (w.view key).describe.1 with selected := v.selected } ∧
      (d.table.rowSelection.enabled = true → ∀ x, Members.has x v.selected = true ↔
        ∃ row ∈ d.chosen (w.view key).rows ids, (row.idAt d.table.rowIdField).same x = true) ∧
      (d.table.rowSelection.enabled = false → v.selected = (w.view key).selected) ∧
      TakesEffect run key w v u ∧
      (select run key ids).outcome w = (.ok (.ids (u.view key).selected), u) ∧
      (Observing run → u.view key = v) ∧
      ∀ again : Application, again.view key = v →
        (select run key v.selected).outcome again = (.ok (.ids v.selected), again) := by
  obtain ⟨tasks, path⟩ := arises
  have hashed : (w.view key).Hashed := Path.hashed path
  have apart : Members.Apart (w.view key).selected := Path.lawful TableView.apart_lawful path
  let base := (w.view key).describe.1
  have steady : TableView.Steady (w.view key) base := (w.view key).describe_steady
  let picked := Members.ofList ((d.chosen (w.view key).rows ids).map fun row => row.idAt d.table.rowIdField)
  have members : ∀ id ∈ picked, id.hashable = true := fun id member =>
    TableView.chosen_hashable identities id (Members.mem_ofList member)
  have exact (x : Value) : Members.has x picked = true ↔
      ∃ row ∈ d.chosen (w.view key).rows ids, (row.idAt d.table.rowIdField).same x = true :=
    TableView.has_chosen identities x
  have same_iff : Members.same picked (w.view key).selected = true ↔
      ∀ x, Members.has x picked = Members.has x (w.view key).selected :=
    Members.same_iff (Members.ofList_apart _) apart members hashed
  have selects := select_outcome run (TableView.selection_exact read asked identities)
  -- only another set is told, and only where rows can be selected
  by_cases sets : d.table.rowSelection.enabled = true ∧ Members.same picked (w.view key).selected = false
  · obtain ⟨enabled, other⟩ := sets
    have changed : ∃ x, Members.has x picked ≠ Members.has x (w.view key).selected := by
      refine Classical.not_forall.mp fun same => ?_
      rw [same_iff.mpr same] at other
      cases other
    rw [if_pos enabled] at selects
    have takes := setSelection_takes run changed other
    refine ⟨{ base with selected := picked }, setSelection run key picked (w.describing key), rfl,
      fun _ => exact, fun disabled => ?_, takes, selects, takes.view, fun again shows =>
        select_again run read shows identities asked members (Members.ofList_apart _) fun _ => exact⟩
    rw [enabled] at disabled
    cases disabled
  · have same (enabled : d.table.rowSelection.enabled = true) :
        Members.same picked (w.view key).selected = true :=
      Bool.not_eq_false _ ▸ fun other => sets ⟨enabled, other⟩
    have kept : chooseNext run key (if d.table.rowSelection.enabled then some picked else none)
        (w.describing key) = w.describing key := by
      split
      · rename_i enabled
        exact setSelection_same run (same enabled)
      · rfl
    rw [kept] at selects
    have takes : TakesEffect run key w base (w.describing key) := .silent steady.selected
    have chosen : d.table.rowSelection.enabled = true → ∀ x, Members.has x base.selected = true ↔
        ∃ row ∈ d.chosen (w.view key).rows ids, (row.idAt d.table.rowIdField).same x = true := by
      intro enabled x
      rw [steady.selected, ← same_iff.mp (same enabled) x]
      exact exact x
    refine ⟨base, w.describing key, rfl, chosen, fun _ => steady.selected, takes, selects, takes.view,
      fun again shows => select_again run read shows identities asked ?_ ?_ chosen⟩
    · rw [steady.selected]
      exact hashed
    · rw [steady.selected]
      exact apart

-- A page on which the first of two rows with one identity may not be selected, one row has no identity and
-- another has a pair for it.
def patchy : Application :=
  let rows : List Value :=
    [.map [("id", .text "a"), ("is_selectable", .bool false)], .map [("name", .text "b")], entity "a",
      .map [("id", .list [.int 1, .text "x"])], entity "c"]
  (opened { plan := selectable.plan }).played 1 [.table 0 .refresh, .complete 0 (.page rows none)]

-- Of what is asked for there the one identity is selected, and the pair; they stay when they are selected again.
theorem patchy_selected :
    let ids : List Value := [.tuple [.int 1, .text "x"], .text "b", .null, .text "a"]
    patchy.Arises 0 ∧ (∀ id ∈ ids, id.hashable = true) ∧
    ∃ v u, (select (runTo 0) 0 ids).outcome patchy = (.ok (.ids v.selected), u) ∧ u.view 0 = v ∧
      [.text "a", .tuple [.int 1, .text "x"], .text "b", .null, .text "c"].map
        (fun id => Members.has id v.selected) = [true, true, false, false, false] ∧
      (select (runTo 0) 0 v.selected).outcome u = (.ok (.ids v.selected), u) := by
  intro ids
  have arises : patchy.Arises 0 := ((opened_reached _).played 1 _).arises 0
  have asked : ∀ id ∈ ids, id.hashable = true := by decide +kernel
  have table : (patchy.view 0).describe.2.toOption.map (fun known =>
      (known.2.table.rowIdField, known.2.table.rowSelection.enabled, known.2.table.rowSelection.multiple)) =
      some ("id", true, true) := by decide +kernel
  have identities : ∀ row ∈ (patchy.view 0).rows, (row.idAt "id").hashable = true := by decide +kernel
  rcases read : (patchy.view 0).describe.2 with e | ⟨n, d⟩
  · rw [read] at table
    cases table
  · rw [read] at table
    obtain ⟨field, enabled, multiple⟩ : d.table.rowIdField = "id" ∧ d.table.rowSelection.enabled = true ∧
        d.table.rowSelection.multiple = true := by simpa [Except.toOption] using table
    obtain ⟨v, u, -, exact, -, -, selects, shows, again⟩ :=
      select_exact arises (runTo 0) read (field ▸ identities) asked
    have left : u.view 0 = v := shows observing_none
    have known (id : Value) : Members.has id v.selected = ((patchy.view 0).rows.filter
        (Value.isWanted "id" ids)).any fun row => (row.idAt "id").same id := by
      rw [Bool.eq_iff_iff, exact enabled id, List.any_eq_true, TableDescriptor.chosen, if_pos multiple, field]
    rw [left] at selects
    refine ⟨arises, asked, v, u, selects, left, ?_, again u left⟩
    rw [List.map_congr_left fun id _ => known id]
    decide +kernel

end Application

end PagedTable
