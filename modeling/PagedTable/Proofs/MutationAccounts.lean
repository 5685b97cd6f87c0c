import PagedTable.Proofs.BusyState
import PagedTable.Proofs.ClosedTable

namespace PagedTable

namespace Sight

def isBegun (g : Sight) : Bool :=
  match g.occasion with
  | .began (.mutation _) => true
  | _ => false

def isCompleted (g : Sight) : Bool :=
  match g.occasion with
  | .completed _ => true
  | _ => false

def isAccount (g : Sight) : Bool := g.isBegun || g.isCompleted

end Sight

def accounts (sights : List Sight) : List Sight := sights.filter Sight.isAccount

-- Each time a mutation completed that was left while the table was open, it was counted, and so were
-- all others that had begun before and not completed.
def CountedDown (accounts : List Sight) : Prop :=
  ∀ newer g older, accounts = newer ++ g :: older → g.isCompleted = true → g.table.closed = false →
    0 < g.table.pending ∧
      g.table.pending + older.countP Sight.isCompleted = older.countP Sight.isBegun

theorem CountedDown.cons {accounts : List Sight} {g : Sight} (counted : CountedDown accounts)
    (now : g.isCompleted = true → g.table.closed = false → 0 < g.table.pending ∧
      g.table.pending + accounts.countP Sight.isCompleted = accounts.countP Sight.isBegun) :
    CountedDown (g :: accounts) := by
  intro newer h older split ended opened
  rcases List.cons_eq_append_iff.mp split with ⟨-, here⟩ | ⟨rest, -, there⟩
  · cases here
    exact now ended opened
  · exact counted rest h older there ended opened

namespace Strand
open Application

variable {key : Nat} {s s' : Strand}

inductive Tally (s s' : Strand) : Prop where
  | same (accounts : accounts s'.sights = accounts s.sights) (undone : s'.undone = s.undone)
  | begun (g : Sight) (begun : g.isBegun = true) (completed : g.isCompleted = false)
      (accounts : accounts s'.sights = g :: accounts s.sights) (more : s'.undone = s.undone + 1)
  | completed (g : Sight) (begun : g.isBegun = false) (completed : g.isCompleted = true)
      (accounts : accounts s'.sights = g :: accounts s.sights) (table : g.table = s.table)
      (less : s.undone = s'.undone + 1)

theorem Move.tally (move : Move key s s') : Tally s s' := by
  cases move with
  | look o quiet =>
    refine .same ?_ rfl
    cases o <;> first | rfl | cases quiet
  | recount top =>
    obtain ⟨busy, holds, events, sights, recounted⟩ := recounted_eq key s
    refine .same ?_ (by rw [recounted]; rfl)
    dsimp only [doing]
    rcases sights_recounted key s with same | seen
    · rw [same]
    · rw [seen]
      rfl
  | start opened m call => exact .begun _ rfl rfl rfl rfl
  | finish m some => exact .completed _ rfl rfl rfl rfl (Nat.sub_add_cancel some).symm
  | _ => exact .same rfl rfl

-- Each mutation that has begun has completed or not.
structure Accounted (s : Strand) : Prop where
  balance : (accounts s.sights).countP Sight.isBegun =
    (accounts s.sights).countP Sight.isCompleted + s.undone
  counted : CountedDown (accounts s.sights)

theorem Accounted.move (accounted : s.Accounted)
    (pending : s.table.closed = false → s.table.pending = s.undone) (move : Move key s s') : s'.Accounted := by
  have balance := accounted.balance
  cases move.tally with
  | same accounts undone =>
    constructor
    · rw [accounts, undone]
      exact balance
    · rw [accounts]
      exact accounted.counted
  | begun g begun completed accounts more =>
    constructor
    · rw [accounts, List.countP_cons_of_pos begun, List.countP_cons_of_neg (by simp [completed]), more]
      omega
    · rw [accounts]
      refine accounted.counted.cons fun ended _ => ?_
      rw [completed] at ended
      cases ended
  | completed g begun completed accounts table less =>
    constructor
    · rw [accounts, List.countP_cons_of_neg (by simp [begun]), List.countP_cons_of_pos completed]
      omega
    · rw [accounts]
      refine accounted.counted.cons fun _ opened => ?_
      rw [table] at opened ⊢
      have exactly := pending opened
      omega

theorem Path.accounted (path : Path key {} s) : s.Accounted := by
  induction path with
  | refl => exact ⟨rfl, fun newer _ _ split => absurd split (by cases newer <;> exact nofun)⟩
  | tail before move ih => exact ih.move (Path.counted before).pending move

end Strand

namespace Application
open Strand

variable {w : Application}

-- At rest an open table counts the mutations that have begun and not completed, a closed one none. None
-- that completed was counted down from nothing while the table was open.
theorem mutations_counted (reached : Reached w) (key : Nat) :
    (w.table key).pending = (if (w.table key).closed then 0 else w.undone key) ∧
    (accounts (w.sightsOf key)).countP Sight.isBegun =
      (accounts (w.sightsOf key)).countP Sight.isCompleted + w.undone key ∧
    CountedDown (accounts (w.sightsOf key)) := by
  have path := reached.path key
  have accounted := Path.accounted path
  refine ⟨?_, accounted.balance, accounted.counted⟩
  cases closed : (w.table key).closed with
  | false => exact (Path.counted path).pending closed
  | true => exact ((Path.stopped path closed).resolve_right List.not_mem_nil).2

-- Three mutations overlap. The third completes at once as the provider raises. The second succeeds, and
-- a subscriber of the request that its refresh supersedes closes the table. Then the second completes
-- again, and the first for the first time.
def overlapped : Application :=
  let close : Callback Step := { name := "close", steps := [.table 0 .close] }
  let raising : ProviderMode := { raises := some (.trouble (.run "offline")) }
  let succeed (call : Int) : Step := .complete call (.mutation {})
  (opened { plan := {} }).played 3
    [.table 0 (.reload none), .subscribe 0 (some close), .table 0 (.create .null .nothing),
      .table 0 (.update .null .nothing), .provider [(.mutation .remove, raising)],
      .table 0 (.remove [.int 1] .record), succeed 2, succeed 2, succeed 1]

theorem overlapped_reached : Reached overlapped := (opened_reached _).played 3 _

theorem overlapped_counted :
    Reached overlapped ∧ (overlapped.table 0).closed = true ∧ (overlapped.table 0).pending = 0 ∧
      ((overlapped.sightsOf 0).filter Sight.isCompleted).map
        (fun g => (g.table.closed, g.table.pending)) = [(true, 0), (false, 2), (false, 3)] := by
  have counted := (mutations_counted overlapped_reached 0).1
  have closed : (overlapped.table 0).closed = true := by decide +kernel
  rw [if_pos closed] at counted
  exact ⟨overlapped_reached, closed, counted, by decide +kernel⟩

end Application

end PagedTable
