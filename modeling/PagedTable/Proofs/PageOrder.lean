import PagedTable.Proofs.LegiblePages

namespace PagedTable

namespace Value

theorem same_trans {x y z : Value} (hashable : x.hashable = true) (one : x.same y = true)
    (two : y.same z = true) : x.same z = true :=
  same_of_same x z y hashable ((same_comm x y hashable).trans one) two

-- What may be looked for among the members of a set: all that may be a member, and sets.
def isSought : Value → Bool
  | .set _ => true
  | v => v.hashable

theorem isSought_iff {v : Value} : v.isSought = true ↔ v.hashable = true ∨ ∃ xs, v = .set xs := by
  cases v <;> simp [isSought, hashable]

theorem set_same {v : Value} (hashable : v.hashable = true) (xs : List Value) :
    (Value.set xs).same v = false := by
  cases v <;> simp_all [same, Value.hashable]

end Value

namespace Members

variable {id x : Value} {xs ys wanted page : List Value}

theorem has_without (hashable : ∀ z ∈ wanted, z.hashable = true) (own : id.hashable = true) :
    has x (without id wanted) = (has x wanted && !id.same x) := by
  rw [Bool.eq_iff_iff, Bool.and_eq_true, Bool.not_eq_true', has_iff, has_iff]
  constructor
  · rintro ⟨z, member, same⟩
    obtain ⟨inside, other⟩ := List.mem_filter.mp member
    refine ⟨⟨z, inside, same⟩, Bool.eq_false_iff.mpr fun equal => ?_⟩
    have shared : z.same id = true := by
      refine Value.same_trans (hashable z inside) same ?_
      exact (Value.same_comm id x own).trans equal
    simp [shared] at other
  · rintro ⟨⟨z, inside, same⟩, other⟩
    refine ⟨z, List.mem_filter.mpr ⟨inside, ?_⟩, same⟩
    refine Bool.not_eq_true' _ ▸ Bool.eq_false_iff.mpr fun equal => ?_
    have shared := (Value.same_comm z id (hashable z inside)).trans equal
    rw [Value.same_trans own shared same] at other
    cases other

theorem fold_add {vs xs : List Value} (apart : ∀ x ∈ xs, x.hashable = true)
    (hashable : ∀ v ∈ vs, v.hashable = true) :
    vs.foldl add xs = xs ++ (ofList vs).filter fun v => !has v xs := by
  induction vs generalizing xs with
  | nil => exact (List.append_nil xs).symm
  | cons v rest ih =>
    obtain ⟨own, later⟩ := List.forall_mem_cons.mp hashable
    have alone : ∀ x ∈ [v], x.hashable = true := fun x member => List.mem_singleton.mp member ▸ own
    have first : ofList (v :: rest) = v :: (ofList rest).filter fun u => !has u [v] := ih alone later
    rw [first]
    change rest.foldl add (add xs v) = _
    -- a member that is there already covers all that equal it
    cases known : has v xs with
    | true =>
      have covered (u : Value) : (!has u xs && !has u [v]) = !has u xs := by
        obtain ⟨x, inside, same⟩ := has_iff.mp known
        have through (equal : v.same u = true) : has u xs = true :=
          has_iff.mpr ⟨x, inside, Value.same_trans (apart x inside) same equal⟩
        cases equal : v.same u with
        | true => simp [through equal]
        | false => simp [has, equal]
      rw [show add xs v = xs from if_pos known, ih apart later, List.filter_cons_of_neg (by simp [known]),
        List.filter_filter]
      simp only [covered]
    | false =>
      have more : add xs v = xs ++ [v] := if_neg (by simp [known])
      have added : ∀ x ∈ xs ++ [v], x.hashable = true := by
        intro x member
        rcases List.mem_append.mp member with there | last
        · exact apart x there
        · exact List.mem_singleton.mp last ▸ own
      rw [more, ih added later, List.filter_cons_of_pos (by simp [known]), List.filter_filter,
        List.append_assoc, List.singleton_append]
      simp only [has, List.any_append, Bool.not_or]

theorem ofList_cons {vs : List Value} (own : id.hashable = true) (later : ∀ v ∈ vs, v.hashable = true) :
    ofList (id :: vs) = id :: (ofList vs).filter fun u => !id.same u := by
  have alone : ∀ x ∈ [id], x.hashable = true := fun x member => List.mem_singleton.mp member ▸ own
  have first : ofList (id :: vs) = id :: (ofList vs).filter fun u => !has u [id] := fold_add alone later
  simpa [has] using first

theorem has_ofList {vs : List Value} (hashable : ∀ v ∈ vs, v.hashable = true) :
    has x (ofList vs) = has x vs := by
  induction vs with
  | nil => rfl
  | cons v rest ih =>
    obtain ⟨own, later⟩ := List.forall_mem_cons.mp hashable
    have left (us : List Value) : has x (v :: us) = (v.same x || has x us) := rfl
    rw [ofList_cons own later, left, left, ← ih later]
    cases equal : v.same x with
    | true => rfl
    | false =>
      rw [Bool.false_or, Bool.false_or, Bool.eq_iff_iff, has_iff, has_iff]
      constructor
      · rintro ⟨u, member, same⟩
        exact ⟨u, (List.mem_filter.mp member).1, same⟩
      · rintro ⟨u, member, same⟩
        refine ⟨u, List.mem_filter.mpr ⟨member, ?_⟩, same⟩
        refine Bool.not_eq_true' _ ▸ Bool.eq_false_iff.mpr fun shared => ?_
        rw [Value.same_trans own shared same] at equal
        cases equal

theorem meet_without (members : ∀ z ∈ wanted, z.hashable = true) (own : id.hashable = true) :
    meet xs (without id wanted) = meet (xs.filter fun u => !id.same u) wanted := by
  unfold meet
  rw [List.filter_filter]
  exact List.filter_congr fun x _ => has_without members own

theorem without_apart (members : ∀ z ∈ wanted, z.hashable = true) (rest : List Value) :
    (without id wanted).filter (fun z => !has z rest) = wanted.filter fun z => !has z (id :: rest) := by
  unfold without
  rw [List.filter_filter]
  refine List.filter_congr fun z member => ?_
  have left : has z (id :: rest) = (id.same z || has z rest) := rfl
  rw [left, Value.same_comm z id (members z member), Bool.not_or, Bool.and_comm]

theorem has_absent (members : ∀ z ∈ wanted, z.hashable = true) (own : id.hashable = true)
    (absent : has id wanted = false) (equal : id.same x = true) : has x wanted = false := by
  refine Bool.eq_false_iff.mpr fun there => ?_
  obtain ⟨z, member, same⟩ := has_iff.mp there
  have back := (Value.same_comm id x own).trans equal
  rw [has_iff.mpr ⟨z, member, Value.same_trans (members z member) same back⟩] at absent
  cases absent

theorem meet_absent (members : ∀ z ∈ wanted, z.hashable = true) (own : id.hashable = true)
    (absent : has id wanted = false) : meet (xs.filter fun u => !id.same u) wanted = meet xs wanted := by
  unfold meet
  rw [List.filter_filter]
  refine List.filter_congr fun x _ => ?_
  cases equal : id.same x with
  | false => simp
  | true => simp [has_absent members own absent equal]

theorem absent_apart (members : ∀ z ∈ wanted, z.hashable = true) (own : id.hashable = true)
    (absent : has id wanted = false) (rest : List Value) :
    (wanted.filter fun z => !has z (id :: rest)) = wanted.filter fun z => !has z rest := by
  refine List.filter_congr fun z member => ?_
  have left : has z (id :: rest) = (id.same z || has z rest) := rfl
  have other : id.same z = false := by
    refine Bool.eq_false_iff.mpr fun equal => ?_
    have inside := has_iff.mpr ⟨z, member, Value.same_refl z (members z member)⟩
    rw [has_absent members own absent equal] at inside
    cases inside
  rw [left, other, Bool.false_or]

theorem has_sought (sought : ∀ id ∈ page, id.isSought = true) (hashable : x.hashable = true) :
    has x page = has x (page.filter Value.hashable) := by
  rw [Bool.eq_iff_iff, has_iff, has_iff]
  constructor
  · rintro ⟨id, member, same⟩
    refine ⟨id, List.mem_filter.mpr ⟨member, ?_⟩, same⟩
    rcases Value.isSought_iff.mp (sought id member) with own | ⟨xs, rfl⟩
    · exact own
    · rw [Value.set_same hashable] at same
      cases same
  · rintro ⟨id, member, same⟩
    exact ⟨id, (List.mem_filter.mp member).1, same⟩

-- The distinct members of some, those that are on a page first, as they first stand there.
structure Ordered (page wanted ids : List Value) : Prop where
  apart : Apart ids
  same : ∀ x, has x ids = has x wanted
  first : ∃ rest, ids = meet (ofList (page.filter Value.hashable)) wanted ++ rest ∧
    ∀ id ∈ rest, has id page = false

theorem Ordered.nonempty (ordered : Ordered page wanted ids) (hashable : ∀ id ∈ wanted, id.hashable = true)
    (some : wanted ≠ []) : ids ≠ [] := by
  obtain ⟨id, inside⟩ := List.exists_mem_of_ne_nil wanted some
  have known : has id ids = true := by
    rw [ordered.same]
    exact has_iff.mpr ⟨id, inside, Value.same_refl id (hashable id inside)⟩
  obtain ⟨z, member, -⟩ := has_iff.mp known
  exact List.ne_nil_of_mem member

end Members

namespace TableView
open Members

variable {id : Value} {wanted page ids : List Value}

theorem isAmong_hashable (hashable : id.hashable = true) : isAmong wanted id = .ok (has id wanted) := by
  unfold isAmong
  split
  · simp [Value.hashable] at hashable
  · rw [if_pos hashable]

-- Those that are wanted, in the order of the page, and then those that are not on it.
theorem arrange_ok (hashable : ∀ id ∈ page, id.hashable = true) (members : ∀ id ∈ wanted, id.hashable = true) :
    arrange wanted page = .ok (meet (ofList page) wanted ++ wanted.filter fun id => !has id page) := by
  induction page generalizing wanted with
  | nil => simp [arrange, meet, ofList, has]
  | cons id rest ih =>
    obtain ⟨own, later⟩ := List.forall_mem_cons.mp hashable
    unfold arrange
    rw [isAmong_hashable own, ofList_cons own later]
    cases among : has id wanted with
    | true =>
      have fewer : ∀ z ∈ without id wanted, z.hashable = true :=
        fun z member => members z (List.mem_filter.mp member).1
      dsimp only
      rw [ih later fewer, meet_without members own, without_apart members rest]
      simp [meet, among, Except.map]
    | false =>
      dsimp only
      rw [ih later members, absent_apart members own among rest, ← meet_absent members own among]
      simp [meet, among]

theorem arrange_sought (sought : ∀ id ∈ page, id.isSought = true) :
    arrange wanted page = arrange wanted (page.filter Value.hashable) := by
  induction page generalizing wanted with
  | nil => rfl
  | cons id rest ih =>
    obtain ⟨own, later⟩ := List.forall_mem_cons.mp sought
    rcases Value.isSought_iff.mp own with hashable | ⟨xs, rfl⟩
    · rw [List.filter_cons_of_pos hashable]
      unfold arrange
      rw [isAmong_hashable hashable]
      cases has id wanted <;> simp only [ih later]
    · rw [List.filter_cons_of_neg (by simp [Value.hashable])]
      exact ih later

theorem isAmong_unsought (unsought : id.isSought = false) : isAmong wanted id = .error .unsupported := by
  unfold isAmong
  split
  · cases unsought
  · rename_i other
    have unhashable : ¬ id.hashable = true := fun hashable =>
      Bool.eq_false_iff.mp unsought (Value.isSought_iff.mpr (.inl hashable))
    exact if_neg unhashable

theorem arrange_unsought (unsought : ∃ id ∈ page, id.isSought = false) :
    arrange wanted page = .error .unsupported := by
  induction page generalizing wanted with
  | nil => simp at unsought
  | cons id rest ih =>
    unfold arrange
    cases own : id.isSought with
    | false => rw [isAmong_unsought own]
    | true =>
      have later : ∃ other ∈ rest, other.isSought = false := by
        obtain ⟨other, member, unsought⟩ := unsought
        rcases List.mem_cons.mp member with rfl | behind
        · rw [own] at unsought
          cases unsought
        · exact ⟨other, behind, unsought⟩
      rcases Value.isSought_iff.mp own with hashable | ⟨xs, rfl⟩
      · rw [isAmong_hashable hashable]
        cases has id wanted with
        | false => exact ih later
        | true => exact congrArg (Except.map (id :: ·)) (ih later)
      · exact ih later

theorem arrange_ordered (sought : ∀ id ∈ page, id.isSought = true)
    (members : ∀ id ∈ wanted, id.hashable = true) :
    ∃ ids, arrange (ofList wanted) page = .ok ids ∧ Ordered page wanted ids := by
  let known := page.filter Value.hashable
  have hashable : ∀ id ∈ known, id.hashable = true := fun id member => (List.mem_filter.mp member).2
  have distinct : ∀ id ∈ ofList wanted, id.hashable = true := fun id member => members id (mem_ofList member)
  have covers (x : Value) : has x (ofList wanted) = has x wanted := has_ofList members
  have front : meet (ofList known) (ofList wanted) = meet (ofList known) wanted := by
    simp only [meet, covers]
  refine ⟨_, (arrange_sought sought).trans (arrange_ok hashable distinct), ?_, fun x => ?_, ?_⟩
  · -- those in front are on the page and those behind are not
    refine List.pairwise_append.mpr ⟨(ofList_apart known).filter _, (ofList_apart wanted).filter _, ?_⟩
    intro x here y there
    refine Bool.eq_false_iff.mpr fun equal => ?_
    have shown := has_iff.mpr ⟨x, mem_ofList (List.mem_filter.mp here).1, equal⟩
    simp [shown] at there
  · rw [Bool.eq_iff_iff, has_iff, ← covers, has_iff]
    constructor
    · rintro ⟨u, member, same⟩
      rcases List.mem_append.mp member with here | there
      · obtain ⟨z, inside, equal⟩ := has_iff.mp (List.mem_filter.mp here).2
        exact ⟨z, inside, Value.same_trans (distinct z inside) equal same⟩
      · exact ⟨u, (List.mem_filter.mp there).1, same⟩
    · rintro ⟨z, member, same⟩
      -- one that is on the page stands in front by what equals it there
      cases shown : has z known with
      | false => exact ⟨z, List.mem_append_right _ (List.mem_filter.mpr ⟨member, by simp [known, shown]⟩), same⟩
      | true =>
        rw [← has_ofList hashable] at shown
        obtain ⟨u, inside, equal⟩ := has_iff.mp shown
        have own := hashable u (mem_ofList inside)
        have wants : has u (ofList wanted) = true :=
          has_iff.mpr ⟨z, member, (Value.same_comm u z own).trans equal⟩
        exact ⟨u, List.mem_append_left _ (List.mem_filter.mpr ⟨inside, wants⟩),
          Value.same_trans own equal same⟩
  · refine ⟨_, congrArg (· ++ _) front, fun id member => ?_⟩
    obtain ⟨inside, other⟩ := List.mem_filter.mp member
    rw [has_sought sought (distinct id inside)]
    simpa using other

variable {v : TableView}

theorem described_again {known : Nat × TableDescriptor} (cached : v.describe = (v, .ok known))
    {v' : TableView} (read : Described v v') : v' = v := by
  rcases read with rfl | rfl
  · rfl
  · rw [cached]

theorem identityOf_known {known : Nat × TableDescriptor} (read : v.describe.2 = .ok known) (row : Value) :
    v.identityOf row = .ok (v.idOf row) := by
  have told : ∃ id, v.identityOf row = .ok id := by
    unfold identityOf
    rw [rowId_read, read]
    exact ⟨_, known_identity row known.2.table.rowIdField⟩
  obtain ⟨id, own⟩ := told
  rw [own, idOf_read own]

theorem orderIds_read (known : ∀ row ∈ v.rows, v.identityOf row = .ok (v.idOf row))
    (members : ∀ id ∈ wanted, id.hashable = true) :
    (v.orderIds wanted).2 = arrange (ofList wanted) (v.rows.map v.idOf) := by
  have read : (v.identified v.rows).2 = .ok (v.rows.map fun row => (v.idOf row, row)) :=
    identified_iff.mpr ⟨known, rfl⟩
  unfold orderIds allHashable
  rw [if_pos (Value.allHashable_iff.mpr members)]
  rcases both : v.identified v.rows with ⟨u, outcome⟩
  rw [both] at read
  cases read
  change arrange _ ((v.rows.map fun row => (v.idOf row, row)).map fun p => p.1) = _
  rw [List.map_map]
  rfl

theorem orderIds_known {known : Nat × TableDescriptor} (cached : v.describe = (v, .ok known))
    {wanted : List Value} (members : ∀ id ∈ wanted, id.hashable = true) :
    v.orderIds wanted = (v, arrange (ofList wanted) (v.rows.map v.idOf)) :=
  Prod.ext (described_again cached (v.orderIds_described wanted))
    (orderIds_read (fun row _ => identityOf_known (by rw [cached]) row) members)

section Selected

theorem isAmong_true {id : Value} (among : isAmong wanted id = .ok true) : id.hashable = true := by
  unfold isAmong at among
  split at among
  · cases among
  · split at among
    · assumption
    · cases among

theorem pick_adds {picked chosen : List Value} {multiple : Bool} {pairs : List (Value × Value)}
    (picks : pick wanted multiple picked pairs = .ok chosen) :
    ∃ ids : List Value, (∀ id ∈ ids, id.hashable = true) ∧ chosen = ids.foldl Members.add picked := by
  induction pairs generalizing picked with
  | nil =>
    cases picks
    exact ⟨[], fun _ member => absurd member List.not_mem_nil, rfl⟩
  | cons pair rest ih =>
    obtain ⟨own, row⟩ := pair
    unfold pick at picks
    split at picks
    · exact ih picks
    · split at picks
      · cases picks
      · rename_i isWanted among
        split at picks
        · rename_i chooses
          have wants : isWanted = true := (Bool.and_eq_true _ _ ▸ chooses).1
          have hashable : own.hashable = true := isAmong_true (wants ▸ among)
          split at picks
          · obtain ⟨ids, later, rfl⟩ := ih picks
            exact ⟨own :: ids, List.forall_mem_cons.mpr ⟨hashable, later⟩, rfl⟩
          · cases picks
            exact ⟨[own], fun id member => List.mem_singleton.mp member ▸ hashable, rfl⟩
        · exact ih picks

def Hashed (v : TableView) : Prop := ∀ id ∈ v.selected, id.hashable = true

theorem hashed_lawful : SelectionLaw fun ids => ∀ id ∈ ids, id.hashable = true where
  none _ member := absurd member List.not_mem_nil
  picked picks := by
    obtain ⟨ids, hashable, rfl⟩ := pick_adds picks
    exact fun id member => hashable id (mem_ofList member)
  survives hashable before id member := by
    rcases mem_common member with ⟨chosen, -⟩ | ⟨known, -⟩
    · exact before id chosen
    · exact Value.allHashable_iff.mp hashable id known

end Selected

end TableView

namespace Strand

variable {key : Nat} {s : Strand}

theorem Path.hashed (path : Path key {} s) : s.table.view.Hashed :=
  Path.lawful TableView.hashed_lawful path

end Strand

end PagedTable
