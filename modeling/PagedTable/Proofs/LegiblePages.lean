import PagedTable.Proofs.PageSelection

namespace PagedTable

namespace TableView

variable {v : TableView} {rows : List Value}

def identityOf (v : TableView) (row : Value) : Except Fault Value := known (v.rowId row).2

-- The identities of the rows can be read, and may be members of sets.
def Legible (v : TableView) (rows : List Value) : Prop :=
  ∀ row ∈ rows, ∃ id, v.identityOf row = .ok id ∧ id.hashable = true

instance (v : TableView) (rows : List Value) : Decidable (v.Legible rows) :=
  let readable (row : Value) : Bool := (v.identityOf row).toOption.any Value.hashable
  decidable_of_iff (∀ row ∈ rows, readable row = true) (forall₂_congr fun row _ => by
    unfold readable
    cases v.identityOf row <;> simp [Except.toOption])

theorem rowId_read (v : TableView) (row : Value) : v.rowId row =
    (v.describe.1, v.describe.2.bind fun known => row.identity known.2.table.rowIdField) := by
  unfold rowId
  rcases v.describe with ⟨u, e | ⟨n, d⟩⟩ <;> rfl

theorem describe_twice (v : TableView) : v.describe.1.describe.2 = v.describe.2 := by
  cases read : v.describe.2 with
  | ok known => exact describe_again read
  | error e =>
    have same : v.describe.1 = v := by
      unfold describe at read ⊢
      split at read
      · cases read
      · split at read
        · rfl
        · cases read
    rw [same, read]

theorem describe_same {u : TableView} (same : (u.plan, u.mode, u.parent, u.filters, u.described, u.made) =
    (v.plan, v.mode, v.parent, v.filters, v.described, v.made)) : u.describe.2 = v.describe.2 := by
  simp only [Prod.mk.injEq] at same
  obtain ⟨plan, mode, parent, filters, described, made⟩ := same
  unfold describe filterDefs
  rw [plan, mode, parent, filters, described, made]
  split
  · rfl
  · split <;> rfl

theorem identityOf_same {u : TableView} (same : u.describe.2 = v.describe.2) (row : Value) :
    u.identityOf row = v.identityOf row := by
  unfold identityOf
  rw [rowId_read, rowId_read, same]

theorem legible_same {u : TableView} (same : u.describe.2 = v.describe.2) :
    u.Legible rows ↔ v.Legible rows := by
  unfold Legible
  simp only [identityOf_same same]

theorem identityOf_described (v : TableView) (row : Value) :
    v.describe.1.identityOf row = v.identityOf row := identityOf_same v.describe_twice row

theorem identityOf_real {row id : Value} (read : v.identityOf row = .ok id) (real : id.isNull = false) :
    (v.rowId row).2 = .ok id := by
  unfold identityOf known at read
  split at read
  · rename_i own
    rw [own, Except.ok.inj read]
  · split at read
    · cases read
      cases real
    · cases read

theorem identified_cons (v : TableView) (row : Value) (rest : List Value) :
    (v.identified (row :: rest)).2 = do
      let id ← v.identityOf row
      let others ← (v.describe.1.identified rest).2
      return (id, row) :: others := by
  rw [identified]
  unfold identityOf
  rw [rowId_read]
  dsimp only
  cases known (v.describe.2.bind fun read => row.identity read.2.table.rowIdField) with
  | error e => rfl
  | ok id => rcases v.describe.1.identified rest with ⟨u, e | others⟩ <;> rfl

def idOf (v : TableView) (row : Value) : Value := (v.identityOf row).toOption.getD .null

theorem idOf_read {row id : Value} (read : v.identityOf row = .ok id) : v.idOf row = id := by
  unfold idOf
  rw [read]
  rfl

theorem idOf_described (v : TableView) (row : Value) : v.describe.1.idOf row = v.idOf row := by
  unfold idOf
  rw [identityOf_described]

theorem identified_iff {pairs : List (Value × Value)} : (v.identified rows).2 = .ok pairs ↔
    (∀ row ∈ rows, v.identityOf row = .ok (v.idOf row)) ∧
      pairs = rows.map fun row => (v.idOf row, row) := by
  induction rows generalizing v pairs with
  | nil => simp [identified, eq_comm]
  | cons row rest ih =>
    have later {others : List (Value × Value)} : (v.describe.1.identified rest).2 = .ok others ↔
        (∀ row ∈ rest, v.describe.1.identityOf row = .ok (v.describe.1.idOf row)) ∧
          others = rest.map fun row => (v.describe.1.idOf row, row) := ih
    simp only [identityOf_described, idOf_described] at later
    rw [identified_cons]
    constructor
    · intro read
      obtain ⟨id, own, read⟩ := Act.bind_ok read
      obtain ⟨others, read, done⟩ := Act.bind_ok read
      obtain ⟨all, rfl⟩ := later.mp read
      cases done
      have same := idOf_read own
      refine ⟨List.forall_mem_cons.mpr ⟨by rw [own, same], all⟩, by rw [List.map_cons, same]⟩
    · rintro ⟨all, rfl⟩
      obtain ⟨own, all⟩ := List.forall_mem_cons.mp all
      rw [own, later.mpr ⟨all, rfl⟩]
      rfl

theorem surviving_read (v : TableView) (rows : List Value) : (v.surviving true rows).2 = do
    let pairs ← (v.identified rows).2
    let ids := pairs.map fun p => p.1
    let _ ← allHashable ids
    return common v.selected (Members.ofList ids) := by
  have selected := (identified_described v rows).steady.selected
  unfold surviving
  rw [if_pos rfl]
  rcases read : v.identified rows with ⟨u, e | pairs⟩
  · rfl
  · rw [read] at selected
    dsimp only at selected ⊢
    rw [selected]
    change _ = (do
      let _ ← allHashable (pairs.map fun p => p.1)
      return common v.selected _ : Except Fault _)
    cases allHashable (pairs.map fun p => p.1) <;> rfl

theorem Legible.known (legible : v.Legible rows) : ∀ row ∈ rows, v.identityOf row = .ok (v.idOf row) := by
  intro row member
  obtain ⟨id, read, -⟩ := legible row member
  rw [read, idOf_read read]

theorem Legible.hashable (legible : v.Legible rows) : Value.allHashable (rows.map v.idOf) = true := by
  refine Value.allHashable_iff.mpr fun own member => ?_
  obtain ⟨row, inside, rfl⟩ := List.mem_map.mp member
  obtain ⟨id, read, hashable⟩ := legible row inside
  rw [idOf_read read]
  exact hashable

theorem surviving_iff {selected : List Value} : (v.surviving true rows).2 = .ok selected ↔
    v.Legible rows ∧ selected = common v.selected (Members.ofList (rows.map v.idOf)) := by
  have firsts : (rows.map fun row => (v.idOf row, row)).map (fun p => p.1) = rows.map v.idOf := by
    simp
  rw [surviving_read]
  constructor
  · intro survives
    obtain ⟨pairs, read, survives⟩ := Act.bind_ok survives
    obtain ⟨all, rfl⟩ := identified_iff.mp read
    rw [firsts] at survives
    obtain ⟨⟨⟩, hashable, done⟩ := Act.bind_ok survives
    cases done
    refine ⟨fun row member => ⟨_, all row member, ?_⟩, rfl⟩
    unfold allHashable at hashable
    split at hashable
    · rename_i every
      exact Value.allHashable_iff.mp every _ (List.mem_map_of_mem member)
    · cases hashable
  · rintro ⟨legible, rfl⟩
    rw [identified_iff.mpr ⟨legible.known, rfl⟩]
    change (do
      let _ ← allHashable _
      return common v.selected _ : Except Fault _) = _
    rw [firsts, allHashable, if_pos legible.hashable]
    rfl

theorem surviving_error {keep : Bool} {e : Fault} (stops : (v.surviving keep rows).2 = .error e) :
    keep = true ∧ ¬ v.Legible rows := by
  cases keep with
  | false => cases stops
  | true =>
    refine ⟨rfl, fun legible => ?_⟩
    rw [surviving_iff.mpr ⟨legible, rfl⟩] at stops
    cases stops

-- What is selected are identities, if it is anything.
def Real (v : TableView) : Prop := ∀ id ∈ v.selected, id.isNull = false

theorem Legible.chosen (legible : v.Legible rows) (real : v.Real) {selected : List Value}
    (survives : (v.surviving true rows).2 = .ok selected) {id : Value}
    (member : id ∈ if Members.same selected v.selected then v.selected else selected) :
    ∃ row ∈ rows, ∃ own, (v.rowId row).2 = .ok own ∧ own.same id = true := by
  obtain ⟨-, rfl⟩ := surviving_iff.mp survives
  have there : ∃ own ∈ rows.map v.idOf, own.isNull = false ∧ own.same id = true := by
    split at member
    · rename_i same
      exact common_covers legible.hashable real same member
    · exact common_present legible.hashable real member
  obtain ⟨own, known, there, same⟩ := there
  obtain ⟨row, inside, rfl⟩ := List.mem_map.mp known
  obtain ⟨read, found, -⟩ := legible row inside
  rw [idOf_read found] at there same
  exact ⟨row, inside, read, identityOf_real found there, same⟩

structure SelectionLaw (law : List Value → Prop) : Prop where
  none : law []
  picked {wanted chosen : List Value} {multiple : Bool} {pairs : List (Value × Value)}
    (picks : pick wanted multiple [] pairs = .ok chosen) : law chosen
  survives {selected ids : List Value} (hashable : Value.allHashable ids = true) (before : law selected) :
    law (common selected (Members.ofList ids))

section Laws

variable {law : List Value → Prop} (holds : SelectionLaw law)

include holds

theorem shown_lawful (before : law v.selected) (page : Page) (keep : Bool) :
    law (v.shown page keep).selected := by
  obtain ⟨u, xs, -, shown, left⟩ := shown_left v page keep
  rw [shown]
  cases left with
  | untold survives => exact before
  | same survives same => exact before
  | other survives =>
    cases keep with
    | false =>
      cases survives
      exact holds.none
    | true =>
      obtain ⟨legible, rfl⟩ := surviving_iff.mp survives
      exact holds.survives legible.hashable before

theorem inMode_lawful (before : law v.selected) (mode : TableMode) : law (v.inMode mode).selected := by
  obtain ⟨u, steady, same | none⟩ := inMode_turned v mode
  · rw [same, steady.selected]
    exact before
  · rw [none]
    exact holds.none

theorem Change.lawful {v' : TableView} (change : Change v v') (before : law v.selected) : law v'.selected := by
  rcases change.steady with steady | ⟨ids, chosen, allowed, rfl⟩ | rfl | ⟨name, value, entity, set, rfl⟩
  · rw [steady.selected]
    exact before
  · obtain ⟨n, d, pairs, -, -, -, picks⟩ := selection_some allowed
    exact holds.picked picks
  · exact holds.none
  · exact before

end Laws

theorem real_lawful : SelectionLaw fun ids => ∀ id ∈ ids, id.isNull = false where
  none _ member := absurd member List.not_mem_nil
  picked picks _ member := ((pick_drawn picks member).resolve_left List.not_mem_nil).1
  survives _ real _ member := common_real real member

end TableView

namespace Strand

variable {key : Nat} {s s' : Strand}

section Laws

variable {law : List Value → Prop} (holds : TableView.SelectionLaw law)

include holds

theorem Move.lawful (move : Move key s s') (before : law s.table.view.selected) :
    law s'.table.view.selected := by
  cases move with
  | opened unused view bare numbered keep unselected faithful =>
    change law view.selected
    rw [unselected]
    exact holds.none
  | view change => exact change.lawful holds before
  | turn next other => exact TableView.inMode_lawful holds before next
  | empty top keep | receive answered page keep => exact TableView.shown_lawful holds before _ _
  | bind parent => exact holds.none
  | recount top =>
    obtain ⟨busy, holds, events, sights, recounted⟩ := recounted_eq key s
    rw [recounted]
    exact before
  | _ => exact before

theorem Path.lawful (path : Path key {} s) : law s.table.view.selected := by
  induction path with
  | refl => exact holds.none
  | tail _ move ih => exact move.lawful holds ih

end Laws

theorem Path.real (path : Path key {} s) : s.table.view.Real := Path.lawful TableView.real_lawful path

end Strand

end PagedTable
