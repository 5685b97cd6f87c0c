import PagedTable.Proofs.Requests
import PagedTable.Proofs.Weaving.Running

namespace PagedTable

-- The token whose outcome replaced the rows, and the latest token at that moment.
def Mark.replacement? : Mark → Option (Int × Int)
  | .rowsReplaced token latest => some (token, latest)
  | _ => none

-- Whether other rows may be shown after the mark than before.
def Mark.renewsRows : Mark → Bool
  | .rowsReplaced _ _ | .emptied => true
  | _ => false

namespace Strand

def replacements (s : Strand) : List (Int × Int) := s.marks.filterMap Mark.replacement?

variable {key : Nat} {s s' : Strand}

-- The rows are replaced by the latest request alone, while it is in flight.
theorem Move.replacements (move : Move key s s') :
    s'.replacements = s.replacements ∨ ∃ token r, Entries.get? token s.book.inFlight = some r ∧
      token = s.book.latest ∧ s'.replacements = (token, s.book.latest) :: s.replacements ∧
      s'.entries = s.tasks.filterMap Task.entry? ++ Entries.erase token s.book.inFlight ∧
      s'.book.nextToken = s.book.nextToken := by
  cases move with
  | note own quiet => exact .inl (congrArg (List.filterMap Mark.replacement?) (marks_quiet quiet))
  | recount top =>
    have counted := congrArg (List.filterMap Mark.replacement?) (marks_recounted key s)
    exact .inl counted
  | receive answered page keep => exact .inr ⟨_, _, answered.flying, answered.latest, rfl, rfl, rfl⟩
  | _ => exact .inl rfl

-- Replacements come in the order of the tokens, each for the latest token of its moment, and none
-- for a token that may still be answered.
structure Ordered (s : Strand) : Prop where
  latest : ∀ e ∈ s.replacements, e.1 = e.2
  increasing : (s.replacements.map fun e => e.1).Pairwise (· > ·)
  past : ∀ e ∈ s.replacements, e.1 < s.book.nextToken
  spent : ∀ e ∈ s.replacements, ∀ f ∈ s.entries, f.1 ≠ e.1

theorem Move.ordered (move : Move key s s') (tracked : s.Tracked) (ordered : s.Ordered) :
    s'.Ordered := by
  have later := move.nextToken
  rcases move.replacements with same | ⟨token, r, found, latest, more, entries, next⟩
  · refine { latest := ?_, increasing := ?_, past := ?_, spent := ?_ }
    · rw [same]
      exact ordered.latest
    · rw [same]
      exact ordered.increasing
    · intro e member
      rw [same] at member
      have before := ordered.past e member
      omega
    · intro e member f entered equal
      rw [same] at member
      rcases move.entries entered with known | new
      · exact ordered.spent e member f known equal
      · have before := ordered.past e member
        omega
  · -- the rows are replaced for the latest token, which has not been spent and is no longer in flight
    have flying : (token, r) ∈ s.entries := List.mem_append_right _ (Entries.mem_of_get? found)
    have number : token = (s.book.nextToken : Int) - 1 := latest
    refine { latest := ?_, increasing := ?_, past := ?_, spent := ?_ }
    · rw [more]
      intro e member
      rcases List.mem_cons.mp member with rfl | member
      · exact latest
      · exact ordered.latest e member
    · rw [more, List.map_cons, List.pairwise_cons]
      refine ⟨fun t earlier => ?_, ordered.increasing⟩
      obtain ⟨e, member, rfl⟩ := List.mem_map.mp earlier
      have before := ordered.past e member
      have other := ordered.spent e member (token, r) flying
      change token > e.1
      change token ≠ e.1 at other
      omega
    · rw [more, next]
      intro e member
      rcases List.mem_cons.mp member with rfl | member
      · change token < _
        omega
      · exact ordered.past e member
    · rw [more, entries]
      intro e member f entered equal
      rcases List.mem_cons.mp member with rfl | member
      · have apart := ((tracked.taken found).map fun e => e.1).nodup tracked.apart
        have gone := (List.nodup_cons.mp apart).1
        exact gone (List.mem_map.mpr ⟨f, entered, equal⟩)
      · exact ordered.spent e member f (entries_untracked entered) equal

theorem Path.ordered (path : Path key {} s) : s.Ordered := by
  induction path with
  | refl => constructor <;> simp [Strand.replacements, Strand.marks]
  | tail before move ih => exact move.ordered (Path.tracked before) ih

theorem Move.rows (move : Move key s s') :
    s.table.view.SameRows s'.table.view ∨ ∃ m, s'.marks = m :: s.marks ∧ m.renewsRows = true := by
  have same : s.table.view.SameRows s.table.view := ⟨rfl, rfl⟩
  cases move with
  | opened unused view bare numbered keep => exact .inl bare
  | view change => exact .inl change.rows
  | turn next other => exact .inl (TableView.inMode_kept _ next).rows
  | empty top keep => exact .inr ⟨_, rfl, rfl⟩
  | receive answered page keep => exact .inr ⟨_, rfl, rfl⟩
  | bind parent => exact .inl ⟨rfl, rfl⟩
  | recount top =>
    obtain ⟨busy, holds, events, sights, recounted⟩ := recounted_eq key s
    rw [recounted]
    exact .inl same
  | _ => exact .inl same

theorem Path.rows (path : Path key s s') :
    ∃ new, s'.marks = new ++ s.marks ∧
      ((∀ m ∈ new, m.renewsRows = false) → s.table.view.SameRows s'.table.view) :=
  Path.unless (fun s s' => s.table.view.SameRows s'.table.view) (fun _ => ⟨rfl, rfl⟩)
    .trans Move.rows path

-- A token that nothing stands under any more is never answered again.
theorem Path.spent (path : Path key s s') {token : Int} (given : token < s.book.nextToken)
    (none : ∀ e ∈ s.entries, e.1 ≠ token) :
    token < s'.book.nextToken ∧ ∀ e ∈ s'.entries, e.1 ≠ token := by
  induction path with
  | refl => exact ⟨given, none⟩
  | tail _ move ih =>
    obtain ⟨before, none⟩ := ih
    have later := move.nextToken
    refine ⟨by omega, fun e member => ?_⟩
    rcases move.entries member with known | new
    · exact none e known
    · omega

end Strand

namespace Application
open Strand

def replacements (w : Application) (key : Nat) : List (Int × Int) :=
  (w.marks key).filterMap Mark.replacement?

-- The outcome of the token counts: its request is in flight, and none was issued after it.
def IsCurrent (w : Application) (key : Nat) (token : Int) : Prop :=
  Entries.has token (w.table key).book.inFlight = true ∧ token = (w.table key).book.latest

-- Nothing has happened but that the callbacks were called of the request that was in flight under
-- the token, if there was one. What tables show is as before, and nothing was announced.
def PassedOver (run : Run) (key : Nat) (token : Int) (w w' : Application) : Prop :=
  w' = w ∨ ∃ r x waiting, Entries.get? token (w.table key).book.inFlight = some r ∧
    (∀ k, x.view k = w.view k) ∧
    x.journal = .mark key (.lapsed .passedOver waiting) :: w.journal ∧
    (w' = x ∨ ∃ q, (w.table key).book.request? r = some q ∧
      w' = (host run key).callAll r q.callbacks x)

variable {key : Nat} {w : Application} {token : Int} {run : Run}

theorem view_modifyBook (f : TableBook → TableBook) (w : Application) (k : Nat) :
    (w.modifyBook key f).view k = w.view k := by
  unfold view
  by_cases same : k = key
  · rw [same, table_modifyBook]
  · rw [modifyBook, table_modifyTable_other same]

theorem discard_passed {r : Nat} (found : Entries.get? token (w.table key).book.inFlight = some r)
    (old : token ≠ (w.table key).book.latest) :
    PassedOver run key token w ((host run key).discard r
      ((w.notePassedOver key token).modifyBook key fun b => b.untrack token)) := by
  let noted := w.notePassedOver key token
  let untracked := noted.modifyBook key fun b => b.untrack token
  have flying : Entries.has token (w.table key).book.inFlight = true := by simp [Entries.has, found]
  have recorded : noted = w.noteLapse key .passedOver
      { w.table key with book := (w.table key).book.untrack token } := by
    simp [noted, notePassedOver, flying, old]
  have views (k : Nat) : untracked.view k = w.view k := by
    have same : noted.view k = w.view k := by rw [recorded]; rfl
    rw [← same]
    exact view_modifyBook _ noted k
  have read : ((host run key).read untracked).request? r = (w.table key).book.request? r := by
    change (untracked.table key).book.request? r = _
    rw [table_modifyBook, table_notePassedOver]
    rfl
  have journal : noted.journal = _ := congrArg journal recorded
  unfold Host.discard Host.finish
  rw [read]
  split
  · exact .inr ⟨r, untracked, _, found, views, journal, .inl rfl⟩
  · rename_i q known
    split
    · exact .inr ⟨r, untracked, _, found, views, journal, .inl rfl⟩
    · refine .inr ⟨r, (host run key).change _ untracked, _, found, fun k => ?_, journal,
        .inr ⟨q, known, rfl⟩⟩
      rw [host_change, view_modifyBook]
      exact views k

theorem takeRequest_passed (run : Run) (stale : ¬ w.IsCurrent key token) :
    ∃ w', PassedOver run key token w w' ∧
      (takeRequest run key token).outcome w = (.ok none, w') := by
  cases found : Entries.get? token (w.table key).book.inFlight with
  | none => exact ⟨w, .inl rfl, take_none found⟩
  | some r =>
    have old : token ≠ (w.table key).book.latest := by
      intro latest
      exact stale ⟨by simp [Entries.has, found], latest⟩
    exact ⟨_, discard_passed found old, take_passed found old⟩

theorem pageLoaded_passed (stale : ¬ w.IsCurrent key token) (keep : Bool) (o : Outcome) :
    ∃ w', PassedOver run key token w w' ∧
      (pageLoaded run key token keep o).outcome w = (.ok (), w') := by
  obtain ⟨w', passed, dropped⟩ := takeRequest_passed run stale
  exact ⟨w', passed, Act.outcome_bind_ok dropped⟩

theorem pageRaised_passed (stale : ¬ w.IsCurrent key token) (keep : Bool) (e : Fault) :
    ∃ w', PassedOver run key token w w' ∧
      (pageRaised run key token keep e).outcome w = (.ok (), w') := by
  obtain ⟨w', passed, dropped⟩ := takeRequest_passed run stale
  exact ⟨w', passed, Act.outcome_bind_ok dropped⟩

theorem Reached.ended (reached : Reached w) {r : Nat} {q : Request (Callback Step) Bool}
    (known : (w.table key).book.request? r = some q) (done : q.isDone = true) :
    ¬ w.IsCurrent key q.token := by
  intro current
  have tracked := Path.tracked (reached.path key)
  obtain ⟨k, found⟩ := Option.isSome_iff_exists.mp current.1
  have entered : (q.token, k) ∈ (w.strand [] key).entries := Entries.mem_of_get? found
  have named : (w.table key).book.tokenOf k = q.token := tracked.named _ entered
  have own : (w.table key).book.tokenOf r = q.token := by simp [Book.tokenOf, known]
  have same : r = k := tracked.unique r k (own ▸ tracked.proper _ entered) (own.trans named.symm)
  have pending : (w.table key).book.statusOf k = some .pending :=
    tracked.status k (List.mem_map_of_mem entered)
  rw [← same] at pending
  have status : q.status = .pending := by simpa [Book.statusOf, known] using pending
  simp [Request.isDone, status, RequestStatus.isTerminal] at done

-- The last request wins. For every table of every run: what replaced the rows was, each time, the
-- outcome of the token that was then the latest; these tokens increase; and a request that has ended
-- does not count. Whatever is done in whatever state: other rows are shown only where a replacement
-- is marked, a token that has left those in flight does not return, and what arrives for a token that
-- does not count is passed over.
theorem latest_request_wins (reached : Reached w) (key : Nat) :
    (∀ e ∈ w.replacements key, e.1 = e.2) ∧
    ((w.replacements key).map fun e => e.1).Pairwise (· > ·) ∧
    (∀ r q, (w.table key).book.request? r = some q → q.isDone = true → ¬ w.IsCurrent key q.token) ∧
    (∀ u depth s, ∃ new, ((runTo depth s).after u).marks key = new ++ u.marks key ∧
      ((∀ m ∈ new, m.renewsRows = false) →
        (u.view key).SameRows (((runTo depth s).after u).view key))) ∧
    (∀ u depth s token, token < (u.table key).book.nextToken →
      Entries.has token (u.table key).book.inFlight = false →
      ¬ ((runTo depth s).after u).IsCurrent key token) ∧
    ∀ u depth token keep, ¬ IsCurrent u key token →
      (∀ o, ∃ u', PassedOver (runTo depth) key token u u' ∧
        (pageLoaded (runTo depth) key token keep o).outcome u = (.ok (), u')) ∧
      ∀ e, ∃ u', PassedOver (runTo depth) key token u u' ∧
        (pageRaised (runTo depth) key token keep e).outcome u = (.ok (), u') := by
  have ordered := Path.ordered (reached.path key)
  have same : (w.strand [] key).replacements = w.replacements key :=
    congrArg (List.filterMap Mark.replacement?) (marks_strand [] w key)
  refine ⟨?_, ?_, fun r q known done => reached.ended known done, ?_, ?_, ?_⟩
  · rw [← same]
    exact ordered.latest
  · rw [← same]
    exact ordered.increasing
  · intro u depth s
    obtain ⟨new, more, kept⟩ := Path.rows ((runTo_keeps depth s u).paths key [])
    rw [marks_strand, marks_strand] at more
    exact ⟨new, more, kept⟩
  · intro u depth s token given absent current
    -- a token that nothing stands under is spent, and no path takes it up again
    have none : ∀ e ∈ (u.strand [] key).entries, e.1 ≠ token := by
      intro e member equal
      have flying : e ∈ (u.table key).book.inFlight := member
      rw [← equal, Entries.has_of_mem flying] at absent
      cases absent
    obtain ⟨-, gone⟩ := Path.spent ((runTo_keeps depth s u).paths key []) given none
    obtain ⟨r, found⟩ := Option.isSome_iff_exists.mp current.1
    exact gone (token, r) (Entries.mem_of_get? found) rfl
  · intro u depth token keep stale
    exact ⟨fun o => pageLoaded_passed stale keep o, fun e => pageRaised_passed stale keep e⟩

-- A page is shown, two more requests are issued, and the first of them is answered first.
def overtaken : Application :=
  let answer (call : Int) : Step := .complete call (.page [] none)
  (opened { plan := {} }).played 1
    [.table 0 .refresh, answer 0, .table 0 .refresh, .table 0 .refresh, answer 1, answer 2, answer 2]

theorem overtaken_ordered :
    overtaken.replacements 0 = [(2, 2), (0, 0)] ∧
    ((overtaken.replacements 0).map fun e => e.1).Pairwise (· > ·) :=
  ⟨by decide +kernel, (latest_request_wins ((opened_reached _).played 1 _) 0).2.1⟩

end Application

end PagedTable
