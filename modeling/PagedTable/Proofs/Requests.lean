import PagedTable.Proofs.Entries
import PagedTable.Proofs.Strand

namespace PagedTable

namespace Book

variable {χ ι : Type} {b : Book χ ι} {r : Nat}

def statusOf (b : Book χ ι) (r : Nat) : Option RequestStatus := (b.request? r).map fun q => q.status

theorem request?_modify (f : Request χ ι → Request χ ι) :
    (b.modify r f).request? r = (b.request? r).map f := by
  simp [Book.modify, request?]

theorem request?_modify_other {k : Nat} (other : k ≠ r) (f : Request χ ι → Request χ ι) :
    (b.modify r f).request? k = b.request? k := by
  simp [Book.modify, request?, Ne.symm other]

theorem request?_create {q : Request χ ι} (found : b.request? r = some q) (issuer : ι) :
    (b.create issuer).request? r = some q := by
  have bound : r < b.requests.length := (List.getElem?_eq_some_iff.mp found).1
  simpa [create, request?, List.getElem?_append_left bound] using found

theorem statusOf_modify (f : Request χ ι → Request χ ι) (same : ∀ q, (f q).status = q.status) (k : Nat) :
    (b.modify r f).statusOf k = b.statusOf k := by
  unfold statusOf
  by_cases own : k = r
  · subst own
    rw [request?_modify]
    cases b.request? k <;> simp [same]
  · rw [request?_modify_other own]

theorem tokenOf_modify (f : Request χ ι → Request χ ι) (same : ∀ q, (f q).token = q.token) (k : Nat) :
    (b.modify r f).tokenOf k = b.tokenOf k := by
  unfold tokenOf
  by_cases own : k = r
  · subst own
    rw [request?_modify]
    cases b.request? k <;> simp [same]
  · rw [request?_modify_other own]

theorem tokenOf_create (b : Book χ ι) (issuer : ι) (k : Nat) :
    (b.create issuer).tokenOf k = b.tokenOf k := by
  unfold tokenOf
  cases found : b.request? k with
  | some q => rw [request?_create found]
  | none =>
    have bound : b.requests.length ≤ k := List.getElem?_eq_none_iff.mp found
    by_cases last : k = b.requests.length
    · subst last
      simp [create, request?]
    · have beyond : (b.create issuer).request? k = none := by
        simp only [create, request?, List.getElem?_eq_none_iff, List.length_append, List.length_singleton]
        omega
      rw [beyond]

theorem tokenOf_modify_other {k : Nat} (other : k ≠ r) (f : Request χ ι → Request χ ι) :
    (b.modify r f).tokenOf k = b.tokenOf k := by
  simp only [tokenOf, request?_modify_other other]

theorem statusOf_allot (r k : Nat) : (b.allot r).statusOf k = b.statusOf k :=
  statusOf_modify (fun q => { q with token := b.nextToken }) (fun _ => rfl) k

theorem tokenOf_allot {r : Nat} (known : b.statusOf r ≠ none) : (b.allot r).tokenOf r = b.nextToken := by
  cases found : b.request? r with
  | none => simp [statusOf, found] at known
  | some q =>
    have given : (b.allot r).request? r = some { q with token := b.nextToken } := by
      change (b.modify r _).request? r = _
      rw [request?_modify, found]
      rfl
    simp [tokenOf, given]

theorem tokenOf_allot_other {r k : Nat} (other : k ≠ r) : (b.allot r).tokenOf k = b.tokenOf k :=
  tokenOf_modify_other other _

end Book

-- Requests that are held and entries of requests under their tokens, as the book has them; the status
-- of each is one that is expected.
structure Ledger {χ ι : Type} (expected : Option RequestStatus → Prop) (held : List Nat)
    (entries : List (Int × Nat)) (b : Book χ ι) : Prop where
  distinct : (held ++ entries.map fun e => e.2).Nodup
  apart : (entries.map fun e => e.1).Nodup
  status : ∀ r ∈ held ++ entries.map fun e => e.2, expected (b.statusOf r)
  named : ∀ e ∈ entries, b.tokenOf e.2 = e.1
  proper : ∀ e ∈ entries, 0 ≤ e.1
  given : ∀ r, b.tokenOf r < b.nextToken
  unique : ∀ r k, 0 ≤ b.tokenOf r → b.tokenOf r = b.tokenOf k → r = k

namespace Ledger

variable {χ ι : Type} {expected : Option RequestStatus → Prop} {held : List Nat}
  {entries : List (Int × Nat)} {b : Book χ ι}

theorem empty : Ledger expected [] [] (Book.empty : Book χ ι) := by
  have none (r : Nat) : (Book.empty : Book χ ι).tokenOf r = -1 := rfl
  refine ⟨.nil, .nil, by simp, by simp, by simp, fun r => ?_, fun r k proper => ?_⟩
  · rw [none]
    exact Int.negSucc_lt_zero 0
  · rw [none] at proper
    omega

theorem fresh (ledger : Ledger expected held entries b) {e : Int × Nat} (member : e ∈ entries) :
    e.1 < b.nextToken := by
  rw [← ledger.named e member]
  exact ledger.given e.2

theorem perm {held' : List Nat} {entries' : List (Int × Nat)} (ledger : Ledger expected held entries b)
    (same : held.Perm held') (alike : entries.Perm entries') : Ledger expected held' entries' b := by
  have all : (held ++ entries.map fun e => e.2).Perm (held' ++ entries'.map fun e => e.2) :=
    same.append (alike.map _)
  exact {
    distinct := all.nodup ledger.distinct
    apart := (alike.map _).nodup ledger.apart
    status := fun r member => ledger.status r (all.mem_iff.mpr member)
    named := fun e member => ledger.named e (alike.mem_iff.mpr member)
    proper := fun e member => ledger.proper e (alike.mem_iff.mpr member)
    given := ledger.given
    unique := ledger.unique }

theorem fewer {held' : List Nat} {entries' : List (Int × Nat)} (ledger : Ledger expected held entries b)
    (less : held'.Sublist held) (part : entries'.Sublist entries) : Ledger expected held' entries' b := by
  have all : (held' ++ entries'.map fun e => e.2).Sublist (held ++ entries.map fun e => e.2) :=
    less.append (part.map _)
  exact {
    distinct := ledger.distinct.sublist all
    apart := ledger.apart.sublist (part.map _)
    status := fun r member => ledger.status r (all.subset member)
    named := fun e member => ledger.named e (part.subset member)
    proper := fun e member => ledger.proper e (part.subset member)
    given := ledger.given
    unique := ledger.unique }

theorem claim {e : Int × Nat} (ledger : Ledger expected held (e :: entries) b) :
    Ledger expected (e.2 :: held) entries b := by
  have all : (held ++ (e :: entries).map fun e => e.2).Perm (e.2 :: held ++ entries.map fun e => e.2) := by
    simp
  exact {
    distinct := all.nodup ledger.distinct
    apart := (List.nodup_cons.mp ledger.apart).2
    status := fun r member => ledger.status r (all.mem_iff.mpr member)
    named := fun e member => ledger.named e (List.mem_cons_of_mem _ member)
    proper := fun e member => ledger.proper e (List.mem_cons_of_mem _ member)
    given := ledger.given
    unique := ledger.unique }

theorem claimAll {es : List (Int × Nat)} (ledger : Ledger expected held (es ++ entries) b) :
    Ledger expected ((es.map fun e => e.2) ++ held) entries b := by
  induction es generalizing held with
  | nil => exact ledger
  | cons e rest ih =>
    have claimed := ih ledger.claim
    exact claimed.perm List.perm_middle (.refl _)

theorem restated {b' : Book χ ι} (ledger : Ledger expected held entries b)
    (status : ∀ r ∈ held ++ entries.map fun e => e.2, expected (b'.statusOf r))
    (tokens : ∀ r, b'.tokenOf r = b.tokenOf r) (next : b'.nextToken = b.nextToken) :
    Ledger expected held entries b' := by
  refine { ledger with status, named := ?_, given := ?_, unique := ?_ }
  · intro e member
    rw [tokens]
    exact ledger.named e member
  · intro r
    rw [tokens, next]
    exact ledger.given r
  · intro r k
    rw [tokens, tokens]
    exact ledger.unique r k

theorem reread {b' : Book χ ι} (ledger : Ledger expected held entries b)
    (statuses : ∀ r ∈ held ++ entries.map fun e => e.2, b'.statusOf r = b.statusOf r)
    (tokens : ∀ r, b'.tokenOf r = b.tokenOf r) (next : b'.nextToken = b.nextToken) :
    Ledger expected held entries b' := by
  refine ledger.restated (fun r member => ?_) tokens next
  rw [statuses r member]
  exact ledger.status r member

theorem entered {r : Nat} (ledger : Ledger expected held entries b)
    (new : r ∉ held ++ entries.map fun e => e.2) (status : expected (b.statusOf r)) :
    Ledger expected (r :: held) entries b := by
  refine { ledger with distinct := List.nodup_cons.mpr ⟨new, ledger.distinct⟩, status := ?_ }
  intro k member
  rcases List.mem_cons.mp member with rfl | member
  · exact status
  · exact ledger.status k member

theorem created (ledger : Ledger expected held entries b) (known : ¬ expected none) (issuer : ι) :
    Ledger expected held entries (b.create issuer) := by
  have kept (r : Nat) (member : r ∈ held ++ entries.map fun e => e.2) :
      (b.create issuer).request? r = b.request? r := by
    have status := ledger.status r member
    cases found : b.request? r with
    | none =>
      rw [Book.statusOf, found] at status
      exact absurd status known
    | some q => exact Book.request?_create found issuer
  refine ledger.reread (fun r member => ?_) (b.tokenOf_create issuer) rfl
  simp only [Book.statusOf, kept r member]

theorem begun {r : Nat} {q : Request χ ι} (ledger : Ledger (· = some .pending) held entries b)
    (found : b.request? r = some q) (created : q.status = .created) :
    Ledger (· = some .pending) (r :: held) entries
      (b.modify r fun q => { q with status := .pending }) := by
  have new : r ∉ held ++ entries.map fun e => e.2 := by
    intro member
    have pending := ledger.status r member
    simp [Book.statusOf, found, created] at pending
  have old : Ledger (· = some .pending) held entries
      (b.modify r fun q => { q with status := .pending }) := by
    refine ledger.reread (fun k member => ?_) (fun k => ?_) rfl
    · have other : k ≠ r := fun same => new (same ▸ member)
      simp only [Book.statusOf, Book.request?_modify_other other]
    · exact Book.tokenOf_modify (fun q => { q with status := .pending }) (fun _ => rfl) k
  exact old.entered new (by simp [Book.statusOf, Book.request?_modify, found])

theorem modified {r : Nat} {f : Request χ ι → Request χ ι} (ledger : Ledger expected held entries b)
    (status : ∀ q, (f q).status = q.status) (token : ∀ q, (f q).token = q.token) :
    Ledger expected held entries (b.modify r f) :=
  ledger.reread (fun k _ => Book.statusOf_modify f status k) (Book.tokenOf_modify f token) rfl

theorem settled {r : Nat} {f : Request χ ι → Request χ ι} (ledger : Ledger expected (r :: held) entries b)
    (same : ∀ q, (f q).token = q.token) : Ledger expected held entries (b.modify r f) := by
  have gone := (List.nodup_cons.mp ledger.distinct).1
  have rest : Ledger expected held entries b := ledger.fewer (List.sublist_cons_self _ _) (.refl _)
  refine rest.reread (fun k member => ?_) (Book.tokenOf_modify f same) rfl
  have other : k ≠ r := fun same => gone (same ▸ member)
  simp only [Book.statusOf, Book.request?_modify_other other]

theorem allotted {r : Nat} (ledger : Ledger expected (r :: held) entries b) (known : ¬ expected none) :
    Ledger expected held ((b.nextToken, r) :: entries) (b.allot r) := by
  have gone := (List.nodup_cons.mp ledger.distinct).1
  have status := ledger.status r List.mem_cons_self
  have own := Book.tokenOf_allot fun none => known (none ▸ status)
  have others {k : Nat} (other : k ≠ r) := Book.tokenOf_allot_other (b := b) other
  have all : (r :: held ++ entries.map fun e => e.2).Perm
      (held ++ (((b.nextToken : Int), r) :: entries).map fun e => e.2) := by
    simpa using List.perm_middle.symm
  refine ⟨all.nodup ledger.distinct, ?_, ?_, ?_, ?_, ?_, ?_⟩
  · refine List.nodup_cons.mpr ⟨fun member => ?_, ledger.apart⟩
    obtain ⟨e, entered, same⟩ := List.mem_map.mp member
    have before := ledger.fresh entered
    change e.1 = b.nextToken at same
    omega
  · intro k member
    rw [Book.statusOf_allot]
    exact ledger.status k (all.mem_iff.mpr member)
  · intro e member
    rcases List.mem_cons.mp member with rfl | member
    · exact own
    · have other : e.2 ≠ r := by
        intro same
        exact gone (List.mem_append_right _ (same ▸ List.mem_map_of_mem member))
      rw [others other]
      exact ledger.named e member
  · intro e member
    rcases List.mem_cons.mp member with rfl | member
    · exact Int.natCast_nonneg _
    · exact ledger.proper e member
  · intro k
    change _ < ((b.nextToken + 1 : Nat) : Int)
    by_cases same : k = r
    · rw [same, own]
      omega
    · rw [others same]
      have before := ledger.given k
      omega
  -- the new token is above all that were given, so no other request has it
  · intro k l proper equal
    by_cases first : k = r <;> by_cases second : l = r
    · rw [first, second]
    · have before := ledger.given l
      rw [first, own, others second] at equal
      omega
    · have before := ledger.given k
      rw [second, own, others first] at equal
      omega
    · rw [others first] at proper equal
      rw [others second] at equal
      exact ledger.unique k l proper equal

end Ledger

def Task.held? : Task → Option Nat
  | .holding r => some r
  | _ => none

def Task.entry? : Task → Option (Int × Nat)
  | .adding token r => some (token, r)
  | _ => none

namespace Strand

-- The requests that operations hold, and those that stand under a token.
def held (s : Strand) : List Nat := s.tasks.filterMap Task.held?

def entries (s : Strand) : List (Int × Nat) := s.tasks.filterMap Task.entry? ++ s.book.inFlight

def Tracked (s : Strand) : Prop := Ledger (· = some .pending) s.held s.entries s.book

variable {key : Nat} {s s' : Strand}

theorem held_dropped (rs : List Nat) (tasks : List Task) :
    (rs.map Task.holding ++ tasks).filterMap Task.held? = rs ++ tasks.filterMap Task.held? := by
  induction rs with
  | nil => rfl
  | cons r rest ih => simp only [List.map_cons, List.cons_append, List.filterMap_cons, Task.held?, ih]

theorem entry_dropped (rs : List Nat) (tasks : List Task) :
    (rs.map Task.holding ++ tasks).filterMap Task.entry? = tasks.filterMap Task.entry? := by
  induction rs with
  | nil => rfl
  | cons r rest ih => simp only [List.map_cons, List.cons_append, List.filterMap_cons, Task.entry?, ih]

theorem entries_track {token : Int} {r : Nat} {waiting flying : List (Int × Nat)}
    (apart : (((token, r) :: waiting ++ flying).map fun e => e.1).Nodup) :
    ((token, r) :: waiting ++ flying).Perm (waiting ++ Entries.put token r flying) := by
  have absent : token ∉ flying.map fun e => e.1 := by
    intro member
    simp only [List.cons_append, List.map_cons, List.map_append, List.nodup_cons] at apart
    exact apart.1 (List.mem_append_right _ member)
  rw [Entries.put_absent absent, ← List.append_assoc]
  exact (List.perm_append_singleton _ _).symm

theorem Tracked.taken {token : Int} {r : Nat} (tracked : s.Tracked)
    (found : Entries.get? token s.book.inFlight = some r) :
    s.entries.Perm ((token, r) ::
      (s.tasks.filterMap Task.entry? ++ Entries.erase token s.book.inFlight)) := by
  have apart : (s.book.inFlight.map fun e => e.1).Nodup := by
    have all := tracked.apart
    rw [entries, List.map_append] at all
    exact (List.nodup_append.mp all).2.1
  exact ((Entries.erase_perm found apart).append_left _).trans List.perm_middle

theorem Tracked.untrack {token : Int} {r : Nat} (tracked : s.Tracked)
    (found : Entries.get? token s.book.inFlight = some r) :
    Ledger (· = some .pending) (r :: s.held) (s.tasks.filterMap Task.entry? ++ Entries.erase token s.book.inFlight)
      (s.book.untrack token) := by
  have claimed := (tracked.perm (.refl _) (tracked.taken found)).claim
  exact claimed.reread (fun _ _ => rfl) (fun _ => rfl) rfl

theorem Tracked.untrackAll (tracked : s.Tracked) :
    Ledger (· = some .pending) (s.book.flying ++ s.held) (s.tasks.filterMap Task.entry?) s.book.untrackAll := by
  have claimed := (tracked.perm (.refl _) List.perm_append_comm).claimAll
  exact claimed.reread (fun _ _ => rfl) (fun _ => rfl) rfl

theorem Tracked.supersede {r : Nat} {rest : List Task} (tracked : s.Tracked)
    (top : s.tasks = .holding r :: rest) :
    Ledger (· = some .pending) (s.book.flying ++ rest.filterMap Task.held?)
      ((s.book.nextToken, r) :: rest.filterMap Task.entry?) ((s.book.allot r).untrackAll) := by
  have dropped := tracked.untrackAll
  rw [held, top] at dropped
  exact (dropped.perm List.perm_middle (.refl _)).allotted (by simp)

theorem Tracked.track {token : Int} {r : Nat} {rest : List Task} (tracked : s.Tracked)
    (top : s.tasks = .adding token r :: .counting :: rest) :
    Ledger (· = some .pending) (rest.filterMap Task.held?)
      (rest.filterMap Task.entry? ++ Entries.put token r s.book.inFlight) (s.book.track token r) := by
  have before : Ledger (· = some .pending) (rest.filterMap Task.held?)
      ((token, r) :: rest.filterMap Task.entry? ++ s.book.inFlight) s.book := by
    have all := tracked
    rw [Tracked, held, entries, top] at all
    exact all
  have after := before.perm (.refl _) (entries_track before.apart)
  exact after.reread (fun _ _ => rfl) (fun _ => rfl) rfl

theorem Tracked.fewer {task : Task} {rest : List Task} (tracked : s.Tracked)
    (top : s.tasks = task :: rest) :
    Ledger (· = some .pending) (rest.filterMap Task.held?) (rest.filterMap Task.entry? ++ s.book.inFlight) s.book := by
  have less := List.sublist_cons_self task rest
  rw [← top] at less
  exact Ledger.fewer tracked (less.filterMap _) ((less.filterMap _).append_right _)

theorem tracked_dropped {rs : List Nat} {tasks : List Task} (shape : s.tasks = rs.map .holding ++ tasks)
    (none : s.book.inFlight = [])
    (ledger : Ledger (· = some .pending) (rs ++ tasks.filterMap Task.held?) (tasks.filterMap Task.entry?) s.book) :
    s.Tracked := by
  rw [Tracked, held, entries, shape, held_dropped, entry_dropped, none, List.append_nil]
  exact ledger

theorem Move.tracked (move : Move key s s') (tracked : s.Tracked) : s'.Tracked := by
  cases move with
  | opened unused view bare numbered keep =>
    have book : s.book = Book.empty := by rw [Strand.book, unused]
    unfold Tracked entries at tracked ⊢
    rw [book] at tracked
    exact tracked
  | view change => exact tracked
  | turn next other => exact tracked
  | note own quiet => exact tracked
  | look o quiet => exact tracked
  | create keep => exact tracked.created (by simp) keep
  | register r c =>
    exact tracked.modified (f := fun q => { q with callbacks := q.callbacks ++ [c] })
      (fun _ => rfl) (fun _ => rfl)
  | begin found created => exact tracked.begun found created
  | supersede top opened =>
    exact tracked_dropped rfl rfl (tracked.supersede top)
  | @join _ _ _ _ query top built issued =>
    exact (tracked.track top).modified (f := fun q => { q with query := some query })
      (fun _ => rfl) (fun _ => rfl)
  | refuse top unbuilt => exact tracked.track top
  | empty top keep =>
    rw [Tracked, held, entries, top] at tracked
    exact tracked.claim
  | settle top status outcome same =>
    rw [Tracked, held, entries, top] at tracked
    exact Ledger.settled tracked same
  | abandon top => exact tracked.fewer top
  | ask top keep => exact tracked.fewer top
  | take answered => exact tracked.untrack answered.flying
  | receive answered page keep => exact tracked.untrack answered.flying
  | lose top =>
    have less := tracked.fewer top
    exact less.fewer (List.sublist_cons_self _ _) (.refl _)
  | pass flying old => exact tracked.untrack flying
  | recount top =>
    obtain ⟨busy, holds, events, sights, recounted⟩ := recounted_eq key s
    rw [recounted]
    exact tracked.fewer top
  | start opened m call => exact tracked
  | request top => exact tracked.fewer top
  | finish m some =>
    unfold Tracked held entries doing
    dsimp only
    split <;> exact tracked
  | bind parent => exact tracked
  | release top =>
    have dropped := tracked.untrackAll
    rw [held, top] at dropped
    exact tracked_dropped rfl rfl dropped
  | close opened => exact tracked_dropped rfl rfl tracked.untrackAll
  | forget closed => exact tracked
  | stop top calm none => exact tracked.fewer top

theorem Path.tracked (path : Path key {} s) : s.Tracked := by
  induction path with
  | refl => exact .empty
  | tail _ move ih => exact move.tracked ih

theorem Move.nextToken (move : Move key s s') : s.book.nextToken ≤ s'.book.nextToken := by
  cases move with
  | opened unused view bare numbered keep =>
    have book : s.book = Book.empty := by rw [Strand.book, unused]
    rw [book]
    exact Nat.zero_le _
  | supersede top => exact Nat.le_succ _
  | recount top =>
    obtain ⟨busy, holds, events, sights, recounted⟩ := recounted_eq key s
    rw [recounted]
    exact Nat.le_refl _
  | _ => exact Nat.le_refl _

-- Where a token stands under the next task, the tasks below it and the book know no others.
theorem entries_below {task : Task} {rest : List Task} {e : Int × Nat} (top : s.tasks = task :: rest)
    (member : e ∈ rest.filterMap Task.entry? ++ s.book.inFlight) : e ∈ s.entries := by
  rcases List.mem_append.mp member with waiting | flying
  · refine List.mem_append_left _ ?_
    obtain ⟨below, inside, entered⟩ := List.mem_filterMap.mp waiting
    rw [top]
    exact List.mem_filterMap.mpr ⟨below, List.mem_cons_of_mem _ inside, entered⟩
  · exact List.mem_append_right _ flying

theorem entries_untracked {token : Int} {e : Int × Nat}
    (member : e ∈ s.tasks.filterMap Task.entry? ++ Entries.erase token s.book.inFlight) :
    e ∈ s.entries := by
  rcases List.mem_append.mp member with waiting | flying
  · exact List.mem_append_left _ waiting
  · exact List.mem_append_right _ (List.mem_filter.mp flying).1

theorem entries_tracked {token : Int} {r : Nat} {rest : List Task} {e : Int × Nat}
    (top : s.tasks = .adding token r :: .counting :: rest)
    (member : e ∈ rest.filterMap Task.entry? ++ Entries.put token r s.book.inFlight) : e ∈ s.entries := by
  rcases List.mem_append.mp member with waiting | flying
  · exact entries_below top (List.mem_append_left _ waiting)
  · rcases Entries.mem_put flying with rfl | before
    · rw [entries, top]
      exact List.mem_cons_self
    · exact List.mem_append_right _ before

theorem entries_dropped {rs : List Nat} {rest : List Task} {e : Int × Nat}
    (shape : s.tasks = rs.map .holding ++ rest) (none : s.book.inFlight = []) (member : e ∈ s.entries) :
    e ∈ rest.filterMap Task.entry? := by
  rwa [entries, shape, entry_dropped, none, List.append_nil] at member

-- No token comes back.
theorem Move.entries (move : Move key s s') {e : Int × Nat} (member : e ∈ s'.entries) :
    e ∈ s.entries ∨ (s.book.nextToken : Int) ≤ e.1 := by
  cases move with
  | opened unused view bare numbered keep =>
    have book : s.book = Book.empty := by rw [Strand.book, unused]
    rw [Strand.entries, book]
    exact .inl member
  | supersede top =>
    rcases List.mem_cons.mp (entries_dropped rfl rfl member) with rfl | below
    · exact .inr (Int.le_refl _)
    · exact .inl (entries_below top (List.mem_append_left _ below))
  | join top built => exact .inl (entries_tracked top member)
  | refuse top unbuilt => exact .inl (entries_tracked top member)
  | empty top keep => exact .inl (entries_below top member)
  | settle top status outcome same => exact .inl (entries_below top member)
  | abandon top => exact .inl (entries_below top member)
  | ask top keep => exact .inl (entries_below top member)
  | take answered => exact .inl (entries_untracked member)
  | receive answered page keep => exact .inl (entries_untracked member)
  | lose top => exact .inl (entries_below top member)
  | pass flying old => exact .inl (entries_untracked member)
  | recount top =>
    obtain ⟨busy, holds, events, sights, recounted⟩ := recounted_eq key s
    rw [recounted] at member
    exact .inl (entries_below top member)
  | request top => exact .inl (entries_below top member)
  | finish m some =>
    unfold Strand.entries doing at member
    dsimp only at member
    split at member <;> exact .inl member
  | release top =>
    have below := entries_dropped rfl rfl member
    exact .inl (entries_below top (List.mem_append_left _ below))
  | close opened =>
    have below := entries_dropped rfl rfl member
    exact .inl (List.mem_append_left _ below)
  | stop top calm none => exact .inl (entries_below top member)
  | _ => exact .inl member

end Strand

end PagedTable
