import PagedTable.Proofs.Weaving.Running

namespace PagedTable

-- The lapse that came last, with what it left, unless the busy state was brought in line since.
def lastLapse : List Mark → Option (Lapse × Bool)
  | [] => none
  | .recounted :: _ => none
  | .lapsed cause waiting :: _ => some (cause, waiting)
  | _ :: rest => lastLapse rest

namespace Strand
open Application

variable {key : Nat} {s s' : Strand}

def seen (s : Strand) : Bool :=
  match lastLapse s.marks with
  | some (_, waiting) => waiting
  | none => s.table.busy

structure Counted (s : Strand) : Prop where
  counted : .counting ∈ s.tasks ∨ isWaiting s.table = s.seen
  pending : s.table.closed = false → s.table.pending = s.undone

theorem Counted.below {task : Task} {rest : List Task} (counted : s.Counted)
    (top : s.tasks = task :: rest) (other : task ≠ .counting) :
    .counting ∈ rest ∨ isWaiting s.table = s.seen := by
  refine counted.counted.imp_left fun member => ?_
  rw [top] at member
  exact (List.mem_cons.mp member).resolve_left (Ne.symm other)

theorem Move.counted (move : Move key s s') (counted : s.Counted) :
    .counting ∈ s'.tasks ∨ isWaiting s'.table = s'.seen := by
  cases move with
  | opened unused view bare numbered keep =>
    refine counted.counted.imp_right fun same => ?_
    rw [seen, unused] at same
    exact same
  | view change => exact counted.counted
  | turn next other => exact counted.counted
  | note own quiet =>
    refine counted.counted.imp_right fun same => ?_
    rw [seen, marks_quiet quiet]
    exact same
  | create keep => exact counted.counted
  | register r c => exact counted.counted
  | begin found created => exact counted.counted.imp_left (List.mem_cons_of_mem _)
  | supersede top => exact .inl (by simp [doing])
  | join top built => exact .inl (by simp [doing])
  -- a lapse is marked with what the table waits for just then
  | refuse top unbuilt => exact .inr rfl
  | empty top keep => exact .inl (by simp [doing])
  | settle top status outcome same => exact counted.below top (by simp)
  | abandon top => exact counted.below top (by simp)
  | ask top keep => exact counted.below top (by simp)
  | take answered => exact .inl (by simp [doing])
  | receive answered page keep => exact .inl (by simp [doing])
  | lose top => exact .inr rfl
  | pass flying old => exact .inr rfl
  | recount top =>
    refine .inr ?_
    by_cases same : isWaiting s.table = s.table.busy
    · rw [recounted_same same]
      exact same
    · rw [recounted_changed same]
      rfl
  | start opened m call => exact .inl (by simp [doing])
  | request top => exact counted.below top (by simp)
  | finish m some =>
    cases closed : s.table.closed with
    | false => exact .inl (by simp [doing])
    | true =>
      refine counted.counted.imp (fun member => ?_) fun same => ?_
      · simpa [doing] using member
      · rw [isWaiting_closed closed] at same
        exact Eq.trans (b := false) (isWaiting_closed closed) same
  | bind parent => exact counted.counted.imp_left (List.mem_cons_of_mem _)
  | release top => exact .inl (by simp [doing])
  | close opened => exact .inl (by simp [doing])
  | look o quiet => exact counted.counted
  -- a closed table waits for nothing, whatever it had in flight
  | forget closed =>
    refine counted.counted.imp_right fun same => ?_
    rw [isWaiting_closed closed] at same
    exact Eq.trans (b := false) (isWaiting_closed closed) same
  | stop top calm none => exact counted.below top (by simp)

theorem Move.pending (move : Move key s s') (counted : s.Counted) :
    s'.table.closed = false → s'.table.pending = s'.undone := by
  cases move with
  | opened unused view bare numbered keep =>
    intro
    have before := counted.pending (by rw [unused])
    rw [unused] at before
    exact before
  | recount top =>
    obtain ⟨busy, holds, events, sights, recounted⟩ := recounted_eq key s
    rw [recounted]
    exact counted.pending
  | start opened m call => exact fun _ => congrArg (· + 1) (counted.pending opened)
  | finish m some => exact fun opened => congrArg (· - 1) (counted.pending opened)
  | close opened => exact fun opened => nomatch opened
  | forget closed =>
    intro opened
    change s.table.closed = false at opened
    rw [closed] at opened
    cases opened
  | _ => exact counted.pending

theorem Path.counted (path : Path key {} s) : s.Counted := by
  induction path with
  | refl => exact ⟨.inr rfl, fun _ => rfl⟩
  | tail _ move ih => exact ⟨move.counted ih, move.pending ih⟩

end Strand

namespace Application
open Strand

variable {w : Application} {key : Nat}

-- What a table is to be busy for: an open table has a request in flight or a mutation that has not
-- completed.
def Outstanding (w : Application) (key : Nat) : Prop :=
  (w.table key).closed = false ∧ ((w.table key).book.inFlight ≠ [] ∨ 0 < w.undone key)

instance (w : Application) (key : Nat) : Decidable (w.Outstanding key) :=
  inferInstanceAs (Decidable (_ ∧ _))

theorem Reached.waiting (reached : Reached w) (key : Nat) :
    isWaiting (w.table key) = true ↔ w.Outstanding key := by
  have counted := Path.counted (reached.path key)
  cases closed : (w.table key).closed with
  | true => simp [Outstanding, isWaiting, closed]
  | false =>
    have pending : (w.table key).pending = w.undone key := counted.pending closed
    simp [Outstanding, isWaiting, Book.hasPending, closed, pending]

theorem Reached.seen (reached : Reached w) (key : Nat) :
    isWaiting (w.table key) = (w.strand [] key).seen :=
  (Path.counted (reached.path key)).counted.resolve_left (List.not_mem_nil)

-- At rest the busy state of a table is exact just where no lapse, since it was last brought in line,
-- left the table to wait otherwise than it says.
theorem busy_exact_iff (reached : Reached w) (key : Nat) :
    ((w.table key).busy = true ↔ w.Outstanding key) ↔
      ∀ cause waiting, lastLapse (w.marks key) = some (cause, waiting) →
        waiting = (w.table key).busy := by
  have waits := reached.waiting key
  have seen := reached.seen key
  unfold Strand.seen at seen
  rw [marks_strand] at seen
  rw [← waits, seen]
  cases last : lastLapse (w.marks key) with
  | none =>
    constructor
    · exact fun _ _ _ none => nomatch none
    · exact fun _ => Iff.rfl
  | some lapse =>
    obtain ⟨cause, left⟩ := lapse
    constructor
    · intro precise cause waiting same
      cases same
      exact Bool.eq_iff_iff.mpr precise.symm
    · intro agrees
      have same : left = (w.table key).busy := agrees cause left rfl
      dsimp only
      rw [same]

-- A subscriber asks again when its request is superseded, which supersedes the request for which it
-- was: that is in flight already, but no longer the latest, and comes back last.
def forgotten : Application :=
  let again : Callback Step := { name := "again", steps := [.table 0 .refresh] }
  let answer (call : Int) : Step := .complete call (.page [] none)
  (opened { plan := {} }).played 3
    [.table 0 (.reload none), .subscribe 0 (some again), .table 0 .refresh, answer 0, answer 1, answer 2]

theorem forgotten_reached : Reached forgotten := (opened_reached _).played 3 _

-- The table is busy for nothing.
theorem forgotten_busy :
    Reached forgotten ∧ (forgotten.table 0).busy = true ∧ ¬ forgotten.Outstanding 0 :=
  ⟨forgotten_reached, by decide +kernel, by decide +kernel⟩

theorem forgotten_inexact :
    Reached forgotten ∧ lastLapse (forgotten.marks 0) = some (.passedOver, false) ∧
      ¬ ((forgotten.table 0).busy = true ↔ forgotten.Outstanding 0) := by
  have left : lastLapse (forgotten.marks 0) = some (.passedOver, false) := by decide +kernel
  refine ⟨forgotten_reached, left, fun precise => ?_⟩
  have same := (busy_exact_iff forgotten_reached 0).mp precise .passedOver false left
  exact absurd same (by decide +kernel)

end Application

end PagedTable
