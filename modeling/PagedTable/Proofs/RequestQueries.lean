import PagedTable.Proofs.ParentBinding

namespace PagedTable

def CallPurpose.page? : CallPurpose → Option (Int × Bool)
  | .page token keep => some (token, keep)
  | .mutation _ => none

def ProviderCall.query? : ProviderCall → Option Query
  | .list query => some query
  | _ => none

theorem CallPurpose.page?_iff {p : CallPurpose} {token : Int} {keep : Bool} :
    p.page? = some (token, keep) ↔ p = .page token keep := by
  cases p <;> simp [page?]

namespace Book

variable {χ ι : Type} {b : Book χ ι}

def queryOf (b : Book χ ι) (r : Nat) : Option Query := (b.request? r).bind fun q => q.query

theorem queryOf_modify {r : Nat} (f : Request χ ι → Request χ ι) (same : ∀ q, (f q).query = q.query)
    (k : Nat) : (b.modify r f).queryOf k = b.queryOf k := by
  unfold queryOf
  by_cases own : k = r
  · subst own
    rw [request?_modify]
    cases b.request? k with
    | none => rfl
    | some q => exact same q
  · rw [request?_modify_other own]

theorem queryOf_modify_other {r k : Nat} (other : k ≠ r) (f : Request χ ι → Request χ ι) :
    (b.modify r f).queryOf k = b.queryOf k := by
  unfold queryOf
  rw [request?_modify_other other]

theorem queryOf_create {r : Nat} (known : b.statusOf r ≠ none) (issuer : ι) :
    (b.create issuer).queryOf r = b.queryOf r := by
  unfold statusOf at known
  unfold queryOf
  cases found : b.request? r with
  | none =>
    rw [found] at known
    exact absurd rfl known
  | some q => rw [request?_create found]

end Book

namespace Strand

variable {key : Nat} {s s' : Strand}

theorem Tracked.flying (tracked : s.Tracked) {e : Int × Nat} (flying : e ∈ s.book.inFlight) :
    s.book.statusOf e.2 = some .pending :=
  tracked.status e.2 (List.mem_append_right _ (List.mem_map_of_mem (List.mem_append_right _ flying)))

theorem Tracked.held_grounded (tracked : s.Tracked) {r : Nat} (held : .holding r ∈ s.tasks)
    {e : Int × Nat} (flying : e ∈ s.book.inFlight) : e.2 ≠ r := by
  have inside : r ∈ s.held := List.mem_filterMap.mpr ⟨_, held, rfl⟩
  have entered : e.2 ∈ s.entries.map fun e => e.2 :=
    List.mem_map_of_mem (List.mem_append_right _ flying)
  exact fun same => (List.nodup_append.mp tracked.distinct).2.2 r inside e.2 entered same.symm

theorem Tracked.adding_grounded (tracked : s.Tracked) {token : Int} {r : Nat}
    (adding : .adding token r ∈ s.tasks) {e : Int × Nat} (flying : e ∈ s.book.inFlight) : e.2 ≠ r := by
  intro same
  have entered : (token, r) ∈ s.entries :=
    List.mem_append_left _ (List.mem_filterMap.mpr ⟨_, adding, rfl⟩)
  have one : s.book.tokenOf r = token := tracked.named _ entered
  have two : s.book.tokenOf e.2 = e.1 := tracked.named e (List.mem_append_right _ flying)
  rw [same, one] at two
  exact tracked.waiting adding (k := e.2) (two ▸ flying)

theorem Move.queryOf (move : Move key s s') (tracked : s.Tracked) {e : Int × Nat}
    (flying : e ∈ s.book.inFlight) (still : e ∈ s'.book.inFlight) :
    s'.book.queryOf e.2 = s.book.queryOf e.2 := by
  cases move with
  | opened unused view bare numbered keep =>
    rw [book, unused] at flying
    cases flying
  | create keep =>
    refine Book.queryOf_create (fun unknown => ?_) keep
    have pending : s.table.book.statusOf e.2 = some .pending := tracked.flying flying
    rw [unknown] at pending
    cases pending
  | register r c =>
    exact Book.queryOf_modify (fun q => { q with callbacks := q.callbacks ++ [c] }) (fun _ => rfl) e.2
  | begin found created =>
    exact Book.queryOf_modify (fun q => { q with status := .pending }) (fun _ => rfl) e.2
  | supersede top opened => cases still
  | join top built =>
    have other := tracked.adding_grounded (by rw [top]; exact List.mem_cons_self) flying
    exact Book.queryOf_modify_other other _
  | settle top status outcome same =>
    have other := tracked.held_grounded (by rw [top]; exact List.mem_cons_self) flying
    exact Book.queryOf_modify_other other _
  | recount top =>
    obtain ⟨busy, holds, events, sights, recounted⟩ := recounted_eq key s
    rw [recounted]
    rfl
  | _ => rfl

def Flies (s : Strand) (token : Int) (query : Query) : Prop :=
  ∀ r, (token, r) ∈ s.book.inFlight → s.book.queryOf r = some query

theorem Move.flies (move : Move key s s') (tracked : s.Tracked) (bound : s.Bound) {token : Int}
    {query : Query} (built : .queryBuilt token ∈ s.marks) (flies : s.Flies token query) :
    s'.Flies token query := by
  intro r still
  rcases move.flying still with flying | adding
  · rw [move.queryOf tracked flying still]
    exact flies r flying
  · exact absurd built (bound.unbuilt token r adding)

structure Queried (s : Strand) : Prop where
  asking : ∀ token query, .asking token query ∈ s.tasks → s.Flies token query
  asked : ∀ c ∈ s.calls, ∀ token keep query, c.purpose = .page token keep → c.call = .list query →
    s.Flies token query

theorem Move.builds (move : Move key s s') {token : Int} (built : .queryBuilt token ∈ s'.marks) :
    .queryBuilt token ∈ s.marks ∨ ∃ issued r rest query,
      s.tasks = .adding issued r :: .counting :: rest ∧ token = s.book.tokenOf r ∧
      s'.tasks = .counting :: .asking token query :: rest ∧
      s'.book = (s.book.track issued r).modify r fun q => { q with query := some query } := by
  have marked {m : Mark} {marks : List Mark} (inside : .queryBuilt token ∈ m :: marks)
      (other : m ≠ .queryBuilt token) : .queryBuilt token ∈ marks :=
    (List.mem_cons.mp inside).resolve_left (Ne.symm other)
  cases move with
  | note own quiet =>
    rw [marks_quiet quiet] at built
    exact .inl built
  | recount top =>
    have counted : (s.recounted key).marks = .recounted :: s.marks := marks_recounted key s
    change .queryBuilt token ∈ (s.recounted key).marks at built
    rw [counted] at built
    exact .inl (marked built nofun)
  | join top query =>
    rcases List.mem_cons.mp built with same | before
    · cases same
      exact .inr ⟨_, _, _, _, top, rfl, rfl, rfl⟩
    · exact .inl before
  | refuse _ _ | empty _ _ | receive _ _ _ | lose _ | pass _ _ | bind _ | release _ | close _ =>
    exact .inl (marked built nofun)
  | _ => exact .inl built

theorem Move.asking (move : Move key s s') (tracked : s.Tracked) (bound : s.Bound) {token : Int}
    {query : Query} (member : .asking token query ∈ s'.tasks) :
    .asking token query ∈ s.tasks ∨ s'.Flies token query := by
  rcases move.tasks member with known | ⟨built, -, issued, r, adding, own, -⟩
  · exact .inl known
  · have named : s.book.tokenOf r = issued :=
      tracked.named (issued, r) (List.mem_append_left _ (List.mem_filterMap.mpr ⟨_, adding, rfl⟩))
    have unbuilt : .queryBuilt token ∉ s.marks := by
      rw [own, named]
      exact bound.unbuilt issued r adding
    obtain ⟨issued, k, rest, other, top, own, after, book⟩ := (move.builds built).resolve_left unbuilt
    rw [after] at member
    rcases List.mem_cons.mp member with impossible | later
    · cases impossible
    rcases List.mem_cons.mp later with same | below
    · cases same
      refine .inr fun j flying => ?_
      have named : s.book.tokenOf j = token := by
        have after : s'.book.tokenOf j = token :=
          (move.tracked tracked).named (token, j) (List.mem_append_right _ flying)
        rw [book, Book.tokenOf_modify] at after
        · exact after
        · exact fun _ => rfl
      have proper : 0 ≤ s.book.tokenOf k := by
        have entered : (issued, k) ∈ s.entries := by
          rw [Strand.entries, top]
          exact List.mem_cons_self
        rw [tracked.named _ entered]
        exact tracked.proper _ entered
      obtain rfl : k = j := tracked.unique k j proper (own.symm.trans named.symm)
      have pending := (move.tracked tracked).flying flying
      rw [book] at pending ⊢
      unfold Book.statusOf at pending
      unfold Book.queryOf
      rw [Book.request?_modify] at pending ⊢
      cases found : (s.book.track issued k).request? k with
      | none =>
        rw [found] at pending
        cases pending
      | some q => rfl
    · refine .inl ?_
      rw [top]
      exact List.mem_cons_of_mem _ (List.mem_cons_of_mem _ below)

theorem Move.listed (move : Move key s s') {c : OpenCall} (member : c ∈ s'.calls) {token : Int}
    {keep : Bool} {query : Query} (purpose : c.purpose = .page token keep) (list : c.call = .list query) :
    c ∈ s.calls ∨ .asking token query ∈ s.tasks := by
  cases move with
  | ask top keep =>
    rcases List.mem_append.mp member with before | new
    · exact .inl before
    · cases List.mem_singleton.mp new
      cases purpose
      cases list
      exact .inr (by rw [top]; exact List.mem_cons_self)
  | request top =>
    rcases List.mem_append.mp member with before | new
    · exact .inl before
    · cases List.mem_singleton.mp new
      cases purpose
  | recount top =>
    obtain ⟨busy, holds, events, sights, recounted⟩ := recounted_eq key s
    rw [recounted] at member
    exact .inl member
  | _ => exact .inl member

theorem Move.queried (move : Move key s s') (tracked : s.Tracked) (bound : s.Bound)
    (queried : s.Queried) : s'.Queried where
  asking token query member := by
    rcases move.asking tracked bound member with known | flies
    · exact move.flies tracked bound (bound.asking token query known)
        (queried.asking token query known)
    · exact flies
  asked c made token keep query purpose list := by
    rcases move.listed made purpose list with known | asking
    · exact move.flies tracked bound (bound.asked c known token keep purpose)
        (queried.asked c known token keep query purpose list)
    · exact move.flies tracked bound (bound.asking token query asking)
        (queried.asking token query asking)

theorem Path.lists (path : Path key {} s) {c : OpenCall} (made : c ∈ s.calls) {token : Int}
    {keep : Bool} (purpose : c.purpose = .page token keep) : ∃ query, c.call = .list query := by
  induction path with
  | refl => cases made
  | tail before move ih =>
    cases move with
    | ask top keep =>
      rcases List.mem_append.mp made with known | new
      · exact ih known
      · cases List.mem_singleton.mp new
        exact ⟨_, rfl⟩
    | request top =>
      rcases List.mem_append.mp made with known | new
      · exact ih known
      · cases List.mem_singleton.mp new
        cases purpose
    | recount top =>
      obtain ⟨busy, holds, events, sights, recounted⟩ := recounted_eq key _
      rw [recounted] at made
      exact ih made
    | _ => exact ih made

theorem Path.queried (path : Path key {} s) : s.Queried := by
  induction path with
  | refl => exact ⟨fun _ _ member => (nomatch member), fun _ member => nomatch member⟩
  | tail before move ih => exact move.queried (Path.tracked before) (Path.bound before).1 ih

end Strand

namespace Application
open Strand

variable {w : Application} {c : OpenCall} {token : Int} {r : Nat}

theorem querySize_untrack (w : Application) (key : Nat) (token : Int) (r : Nat) :
    (w.modifyBook key fun b => b.untrack token).querySize key r = w.querySize key r := by
  unfold querySize
  rw [table_modifyBook]
  rfl

-- A table may be met like this: at rest, or while operations on it are under way.
def Arises (w : Application) (key : Nat) : Prop := ∃ tasks, Path key {} (w.strand tasks key)

theorem Reached.arises (reached : Reached w) (key : Nat) : w.Arises key := ⟨[], reached.path key⟩

theorem Arises.pending (arises : w.Arises c.key)
    (found : Entries.get? token (w.table c.key).book.inFlight = some r) :
    ∃ q, (w.table c.key).book.request? r = some q ∧ q.status = .pending := by
  obtain ⟨tasks, path⟩ := arises
  have status : (w.table c.key).book.statusOf r = some .pending :=
    (Path.tracked path).flying (e := (token, r)) (Entries.mem_of_get? found)
  exact Option.map_eq_some_iff.mp status

-- A page is asked for by a query, and the size that counts for the answer is the one it asks for.
theorem Arises.querySize (arises : w.Arises c.key) (made : c ∈ w.calls) {keep : Bool}
    (purpose : c.purpose = .page token keep)
    (found : Entries.get? token (w.table c.key).book.inFlight = some r) :
    ∃ query, c.call = .list query ∧ w.querySize c.key r = query.pageSize := by
  obtain ⟨tasks, path⟩ := arises
  have own : c ∈ (w.strand tasks c.key).calls := List.mem_filter.mpr ⟨made, by simp⟩
  obtain ⟨query, list⟩ := Path.lists path own purpose
  have queried : (w.table c.key).book.queryOf r = some query :=
    (Path.queried path).asked c own token keep query purpose list r (Entries.mem_of_get? found)
  obtain ⟨q, known, same⟩ := Option.bind_eq_some_iff.mp queried
  refine ⟨query, list, ?_⟩
  rw [Application.querySize, known]
  dsimp only
  rw [same]
  rfl

end Application

end PagedTable
