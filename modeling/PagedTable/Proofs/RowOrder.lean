import Mathlib.Data.List.Basic
import PagedTable.Proofs.PageOrder

namespace PagedTable

namespace Members

variable {x y id : Value} {xs page wanted : List Value}

-- Where the first member stands that is equal to something.
def place? (x : Value) (page : List Value) : Option Nat := page.findIdx? fun id => id.same x

-- Where the one stands anywhere, the other stands before it.
def Before (page : List Value) (x y : Value) : Prop :=
  ∀ j, place? y page = some j → ∃ i < j, place? x page = some i

theorem place?_first (equal : id.same x = true) : place? x (id :: page) = some 0 := by
  simp [place?, List.findIdx?_cons, equal]

theorem place?_later (other : id.same x = false) : place? x (id :: page) = (place? x page).map (· + 1) := by
  simp [place?, List.findIdx?_cons, other]

theorem place?_none : place? x page = none ↔ has x page = false := by
  simp [place?, has, List.findIdx?_eq_none_iff]

theorem Before.later (before : Before page x y) (one : id.same x = false) (two : id.same y = false) :
    Before (id :: page) x y := by
  intro j stands
  rw [place?_later two, Option.map_eq_some_iff] at stands
  obtain ⟨k, stands, rfl⟩ := stands
  obtain ⟨i, less, first⟩ := before k stands
  exact ⟨i + 1, Nat.succ_lt_succ less, by rw [place?_later one, first]; rfl⟩

theorem ofList_before (hashable : ∀ id ∈ page, id.hashable = true) : (ofList page).Pairwise (Before page) := by
  induction page with
  | nil => exact .nil
  | cons id rest ih =>
    obtain ⟨own, later⟩ := List.forall_mem_cons.mp hashable
    have other {x : Value} (member : x ∈ (ofList rest).filter fun u => !id.same u) : id.same x = false :=
      Bool.not_eq_true' _ ▸ (List.mem_filter.mp member).2
    rw [ofList_cons own later]
    refine List.pairwise_cons.mpr ⟨fun y member j stands => ?_, ?_⟩
    · rw [place?_later (other member), Option.map_eq_some_iff] at stands
      obtain ⟨k, -, rfl⟩ := stands
      exact ⟨0, Nat.succ_pos k, place?_first (Value.same_refl id own)⟩
    · exact ((ih later).filter _).imp_of_mem fun one two before => before.later (other one) (other two)

theorem ofList_place (hashable : ∀ id ∈ page, id.hashable = true) (member : x ∈ ofList page) :
    ∃ i, place? x page = some i ∧ page[i]? = some x := by
  induction page with
  | nil => cases member
  | cons id rest ih =>
    obtain ⟨own, later⟩ := List.forall_mem_cons.mp hashable
    rw [ofList_cons own later] at member
    rcases List.mem_cons.mp member with rfl | behind
    · exact ⟨0, place?_first (Value.same_refl x own), rfl⟩
    · obtain ⟨inside, other⟩ := List.mem_filter.mp behind
      obtain ⟨i, stands, there⟩ := ih later inside
      exact ⟨i + 1, by rw [place?_later (Bool.not_eq_true' _ ▸ other), stands]; rfl, there⟩

theorem arranged_before (hashable : ∀ id ∈ page, id.hashable = true) (wanted : List Value) :
    (meet (ofList page) wanted ++ wanted.filter fun id => !has id page).Pairwise (Before page) := by
  have absent {y : Value} (member : y ∈ wanted.filter fun id => !has id page) (x : Value) : Before page x y := by
    intro j stands
    have missing : place? y page = none := place?_none.mpr (Bool.not_eq_true' _ ▸ (List.mem_filter.mp member).2)
    rw [missing] at stands
    cases stands
  refine List.pairwise_append.mpr ⟨(ofList_before hashable).filter _, ?_, fun x _ y member => absent member x⟩
  exact List.pairwise_of_forall_mem_list fun x _ y member => absent member x

theorem arranged_place (hashable : ∀ id ∈ page, id.hashable = true)
    (member : x ∈ meet (ofList page) wanted ++ wanted.filter fun id => !has id page) :
    (∃ i, place? x page = some i ∧ page[i]? = some x) ∨ place? x page = none ∧ x ∈ wanted := by
  rcases List.mem_append.mp member with front | rest
  · exact .inl (ofList_place hashable (List.mem_filter.mp front).1)
  · obtain ⟨inside, other⟩ := List.mem_filter.mp rest
    exact .inr ⟨place?_none.mpr (Bool.not_eq_true' _ ▸ other), inside⟩

theorem Apart.once (apart : Apart xs) (hashable : ∀ z ∈ xs, z.hashable = true) (there : has x xs = true) :
    (xs.countP fun z => z.same x) = 1 := by
  induction xs with
  | nil => cases there
  | cons z rest ih =>
    obtain ⟨first, others⟩ : (∀ u ∈ rest, z.same u = false) ∧ Apart rest := List.pairwise_cons.mp apart
    obtain ⟨own, later⟩ := List.forall_mem_cons.mp hashable
    cases equal : z.same x with
    | true =>
      have alone : (rest.countP fun u => u.same x) = 0 := by
        refine List.countP_eq_zero.mpr fun u member same => ?_
        have shared := Value.same_trans own equal ((Value.same_comm u x (later u member)).trans same)
        rw [first u member] at shared
        cases shared
      rw [List.countP_cons, alone, if_pos equal]
    | false =>
      have behind : has x rest = true := by simpa [has, equal] using there
      rw [List.countP_cons, ih others later behind, if_neg (Bool.not_eq_true _ ▸ equal)]

theorem Ordered.once (ordered : Ordered page wanted xs) (hashable : ∀ x ∈ xs, x.hashable = true)
    (inside : id ∈ wanted) (own : id.hashable = true) : (xs.countP fun x => x.same id) = 1 := by
  refine ordered.apart.once hashable ((ordered.same id).trans ?_)
  exact has_iff.mpr ⟨id, inside, Value.same_refl id own⟩

theorem Ordered.asked (ordered : Ordered page wanted xs) (member : x ∈ xs) (own : x.hashable = true) :
    has x wanted = true :=
  (ordered.same x).symm.trans (has_iff.mpr ⟨x, member, Value.same_refl x own⟩)

theorem real_of_has (real : ∀ id ∈ wanted, id.isNull = false) (asked : has x wanted = true) :
    x.isNull = false := by
  obtain ⟨id, inside, equal⟩ := has_iff.mp asked
  refine Bool.eq_false_iff.mpr fun null => ?_
  rw [Value.isNull_iff.mp null] at equal
  exact Bool.eq_false_iff.mp (real id inside) (Value.isNull_iff.mpr (Value.same_null.mp equal))

end Members

namespace TableView
open Members

variable {v : TableView} {ids : List Value}

def identifies (v : TableView) (id row : Value) : Bool :=
  match (v.rowId row).2 with
  | .ok own => own.same id
  | .error _ => false

def firstRow? (v : TableView) (id : Value) : Option Nat := v.rows.findIdx? (v.identifies id)

theorem identifies_idOf {row id : Value} (real : id.isNull = false) (read : v.identityOf row = .ok (v.idOf row)) :
    v.identifies id row = (v.idOf row).same id := by
  generalize v.idOf row = own at read
  change known (v.rowId row).2 = .ok own at read
  unfold identifies
  cases told : (v.rowId row).2 with
  | ok other =>
    rw [told] at read
    cases read
    rfl
  | error e =>
    have missing : known (.error e) = if e.isBadValue then .ok .null else .error e := rfl
    rw [told, missing] at read
    split at read
    · cases read
      refine (Bool.eq_false_iff.mpr fun same => ?_).symm
      rw [Value.null_same.mp same] at real
      cases real
    · cases read

theorem findIdx?_identifies {rows : List Value} {id : Value} (real : id.isNull = false)
    (known : ∀ row ∈ rows, v.identityOf row = .ok (v.idOf row)) :
    rows.findIdx? (v.identifies id) = place? id (rows.map v.idOf) := by
  induction rows with
  | nil => rfl
  | cons row rest ih =>
    obtain ⟨read, later⟩ := List.forall_mem_cons.mp known
    have same : v.identifies id row = (v.idOf row).same id := identifies_idOf real read
    rw [List.map_cons, List.findIdx?_cons, same, ih later]
    cases equal : (v.idOf row).same id with
    | true => exact (place?_first equal).symm
    | false => exact (place?_later equal).symm

-- What is asked for in the order of the rows: each identity once, and where a row has one of them, whatever
-- stands before it is had by an earlier row. An identity that a row has is handed on as it is read there.
structure InRowOrder (v : TableView) (ids ordered : List Value) : Prop where
  once : ∀ id ∈ ids, (ordered.countP fun x => x.same id) = 1
  asked : ∀ x ∈ ordered, has x ids = true
  sorted : ordered.Pairwise fun x y => ∀ j, v.firstRow? y = some j → ∃ i < j, v.firstRow? x = some i
  shown : ∀ x ∈ ordered, ∀ i, v.firstRow? x = some i →
    ∃ row, v.rows[i]? = some row ∧ (v.rowId row).2 = .ok x
  others : ∀ x ∈ ordered, v.firstRow? x = none → x ∈ ids

theorem Legible.read (legible : v.Legible v.rows) {x : Value} (real : x.isNull = false) {i : Nat}
    (there : (v.rows.map v.idOf)[i]? = some x) : ∃ row, v.rows[i]? = some row ∧ (v.rowId row).2 = .ok x := by
  rw [List.getElem?_map, Option.map_eq_some_iff] at there
  obtain ⟨row, there, rfl⟩ := there
  exact ⟨row, there, identityOf_real (legible.known row (List.mem_of_getElem? there)) real⟩

-- Whatever identities are asked for on a page of which the identities may be members of a set, missing and
-- repeated ones among them.
theorem ids_in_row_order (legible : v.Legible v.rows) (hashable : ∀ id ∈ ids, id.hashable = true)
    (real : ∀ id ∈ ids, id.isNull = false) :
    ∃ ordered, (v.orderIds ids).2 = .ok ordered ∧ v.InRowOrder ids ordered := by
  let page := v.rows.map v.idOf
  have known : ∀ id ∈ page, id.hashable = true := Value.allHashable_iff.mp legible.hashable
  have distinct : ∀ id ∈ ofList ids, id.hashable = true := fun id member => hashable id (mem_ofList member)
  have sought : ∀ id ∈ page, id.isSought = true := fun id member =>
    Value.isSought_iff.mpr (.inl (known id member))
  obtain ⟨ordered, arranged, inOrder⟩ := arrange_ordered sought hashable
  have whole := Except.ok.inj (arranged.symm.trans (arrange_ok known distinct))
  have split {x : Value} (member : x ∈ ordered) := arranged_place known (whole ▸ member)
  have told : ∀ x ∈ ordered, x.hashable = true := by
    intro x member
    rcases split member with ⟨i, -, there⟩ | ⟨-, inside⟩
    · exact known x (List.mem_of_getElem? there)
    · exact distinct x inside
  have there {x : Value} (member : x ∈ ordered) : x.isNull = false :=
    real_of_has real (inOrder.asked member (told x member))
  have place {x : Value} (member : x ∈ ordered) : v.firstRow? x = place? x page :=
    findIdx?_identifies (there member) legible.known
  refine ⟨ordered, (orderIds_read legible.known hashable).trans arranged,
    fun id inside => inOrder.once told inside (hashable id inside),
    fun x member => inOrder.asked member (told x member), ?_, fun x member i stands => ?_,
    fun x member missing => ?_⟩
  · refine (whole ▸ arranged_before known (ofList ids)).imp_of_mem fun one two before => ?_
    rw [place one, place two]
    exact before
  · rw [place member] at stands
    rcases split member with ⟨k, first, read⟩ | ⟨missing, -⟩
    · cases first.symm.trans stands
      exact legible.read (there member) read
    · cases missing.symm.trans stands
  · rw [place member] at missing
    rcases split member with ⟨k, first, -⟩ | ⟨-, inside⟩
    · cases first.symm.trans missing
    · exact mem_ofList inside

-- A page with a row that has no identity, two rows with one identity and a row with a pair for it.
def uneven : TableView :=
  { plan := TableSheet.plan {}
    rows := [.map [("id", .text "b")], .map [("name", .text "c")], .map [("id", .int 1)], .map [("id", .text "b")],
      .map [("id", .list [.text "a", .int 2])]]
    total := 5 }

theorem uneven_in_row_order :
    let ids : List Value := [.text "z", .tuple [.text "a", .int 2], .bool true, .text "z", .text "b"]
    uneven.Legible uneven.rows ∧ (∀ id ∈ ids, id.hashable = true) ∧ (∀ id ∈ ids, id.isNull = false) ∧
    ∃ ordered, (uneven.orderIds ids).2 = .ok ordered ∧ uneven.InRowOrder ids ordered ∧
      Value.sameItems ordered [.text "b", .int 1, .tuple [.text "a", .int 2], .text "z"] = true ∧
      ordered.map uneven.firstRow? = [some 0, some 2, some 4, none] := by
  intro ids
  have legible : uneven.Legible uneven.rows := by decide +kernel
  have hashable : ∀ id ∈ ids, id.hashable = true := by decide +kernel
  have real : ∀ id ∈ ids, id.isNull = false := by decide +kernel
  obtain ⟨ordered, read, inOrder⟩ := ids_in_row_order legible hashable real
  have computed : (uneven.orderIds ids).2.toOption.map (fun ordered =>
      (Value.sameItems ordered [.text "b", .int 1, .tuple [.text "a", .int 2], .text "z"],
        ordered.map uneven.firstRow?)) = some (true, [some 0, some 2, some 4, none]) := by decide +kernel
  rw [read] at computed
  obtain ⟨items, places⟩ := Prod.mk.inj (Option.some.inj computed)
  exact ⟨legible, hashable, real, ordered, read, inOrder, items, places⟩

end TableView

end PagedTable
