import Mathlib.Data.Finset.Card
import Mathlib.Data.List.Basic
import PagedTable.Proofs.Indicator

namespace PagedTable

namespace BusyStep

variable {ω : Type}

def owner : BusyStep ω → ω
  | .acquire owner | .release owner => owner

def acquires : BusyStep ω → Bool
  | .acquire _ => true
  | .release _ => false

end BusyStep

namespace BusyIndicator

variable {ω : Type} [DecidableEq ω]

def callsOf (owner : ω) (calls : List (BusyStep ω)) : List Bool :=
  (calls.filter fun call => call.owner = owner).map BusyStep.acquires

-- The calls that have an effect, from whether the indicator is held on.
def effective : (held : Bool) → List Bool → List Bool
  | _, [] => []
  | held, acquires :: rest =>
    if acquires = held then effective held rest else acquires :: effective acquires rest

-- Whether there was a call of an owner that had an effect, and the last one acquired the indicator.
def lastAcquired (owner : ω) (calls : List (BusyStep ω)) : Bool :=
  (effective false (callsOf owner calls)).getLast?.getD false

def holding (calls : List (BusyStep ω)) : Finset ω :=
  (calls.map BusyStep.owner).toFinset.filter fun owner => lastAcquired owner calls

def told (before after : Finset ω) : List BusyEvent :=
  if after = before then []
  else .count after.card :: if after.Nonempty ↔ before.Nonempty then [] else [.busy (decide after.Nonempty)]

def holders (b : BusyIndicator ω) : Finset ω := b.owners.toFinset

section Calls

variable (b : BusyIndicator ω) (call : BusyStep ω) (calls : List (BusyStep ω)) (owner : ω)

theorem perform_holds :
    (b.perform call).1.holds owner = if call.owner = owner then call.acquires else b.holds owner := by
  cases call with
  | acquire o =>
    change (b.acquire o).1.holds owner = if o = owner then true else b.holds owner
    by_cases held : b.holds o = true
    · rw [acquire_held held]
      split <;> rename_i same
      · exact same ▸ held
      · rfl
    · rw [acquire_free held]
      by_cases same : o = owner <;> simp [holds, same, eq_comm (a := owner)]
  | release o =>
    change (b.release o).1.holds owner = if o = owner then false else b.holds owner
    by_cases held : b.holds o = true
    · rw [release_held held]
      by_cases same : o = owner <;> simp [holds, same, eq_comm]
    · rw [release_free held]
      split <;> rename_i same
      · exact same ▸ Bool.not_eq_true _ ▸ held
      · rfl

theorem callsOf_cons : callsOf owner (call :: calls) =
    if call.owner = owner then call.acquires :: callsOf owner calls else callsOf owner calls := by
  unfold callsOf
  by_cases own : call.owner = owner <;> simp [own]

theorem run_holds : (b.run calls).1.holds owner =
    (effective (b.holds owner) (callsOf owner calls)).getLast?.getD (b.holds owner) := by
  induction calls generalizing b with
  | nil => rfl
  | cons call rest ih =>
    have after := perform_holds b call owner
    refine (ih (b.perform call).1).trans ?_
    rw [callsOf_cons]
    by_cases own : call.owner = owner
    · rw [if_pos own] at after ⊢
      rw [after, effective]
      split <;> rename_i idle
      · rw [idle]
      · rw [List.getLast?_cons, Option.getD_some]
    · rw [if_neg own] at after ⊢
      rw [after]

theorem mem_holders : owner ∈ b.holders ↔ b.holds owner = true := by
  rw [holders, List.mem_toFinset, holds_iff]

theorem mem_holding : owner ∈ holding calls ↔ lastAcquired owner calls = true := by
  rw [holding, Finset.mem_filter, List.mem_toFinset, and_iff_right_iff_imp]
  intro acquired
  by_contra absent
  have none : callsOf owner calls = [] := by
    refine List.map_eq_nil_iff.mpr (List.filter_eq_nil_iff.mpr fun call member own => absent ?_)
    exact List.mem_map.mpr ⟨call, member, of_decide_eq_true own⟩
  rw [lastAcquired, none] at acquired
  cases acquired

theorem holders_run : ((run {} calls).1 : BusyIndicator ω).holders = holding calls := by
  ext owner
  have last : (run {} calls).1.holds owner = lastAcquired owner calls := run_holds {} calls owner
  rw [mem_holders, last, mem_holding]

theorem isBusy_holders : b.isBusy = decide b.holders.Nonempty := by
  rw [Bool.eq_iff_iff, decide_eq_true_iff, holders, List.toFinset_nonempty_iff, isBusy,
    Bool.not_eq_true', List.isEmpty_eq_false_iff]

theorem count_holders (distinct : b.owners.Nodup) : b.count = b.holders.card :=
  (List.toFinset_card_of_nodup distinct).symm

theorem told_same : told b.holders b.holders = [] := if_pos rfl

theorem told_changed {next : BusyIndicator ω} (distinct : next.owners.Nodup)
    (changed : next.holders ≠ b.holders) : told b.holders next.holders =
      .count next.count :: if next.isBusy = b.isBusy then [] else [.busy next.isBusy] := by
  have busy : (next.holders.Nonempty ↔ b.holders.Nonempty) ↔ next.isBusy = b.isBusy := by
    rw [isBusy_holders, isBusy_holders, decide_eq_decide]
  rw [told, if_neg changed, count_holders next distinct, isBusy_holders next]
  simp only [busy, isBusy_holders next]

theorem perform_events (distinct : b.owners.Nodup) :
    (b.perform call).2 = told b.holders (b.perform call).1.holders := by
  have counted := perform_nodup distinct call
  cases call with
  | acquire owner =>
    change (b.acquire owner).2 = told b.holders (b.acquire owner).1.holders
    by_cases held : b.holds owner = true
    · rw [acquire_held held, told_same]
    · change ((b.acquire owner).1).owners.Nodup at counted
      rw [acquire_free held] at counted ⊢
      have changed : ({ owners := b.owners ++ [owner] } : BusyIndicator ω).holders ≠ b.holders := by
        intro same
        have there : owner ∈ ({ owners := b.owners ++ [owner] } : BusyIndicator ω).holders := by
          simp [holders]
        rw [same, mem_holders] at there
        exact held there
      have busy : ({ owners := b.owners ++ [owner] } : BusyIndicator ω).isBusy = true := by simp [isBusy]
      rw [told_changed b counted changed, busy]
      cases b.isBusy <;> rfl
  | release owner =>
    change (b.release owner).2 = told b.holders (b.release owner).1.holders
    by_cases held : b.holds owner = true
    · change ((b.release owner).1).owners.Nodup at counted
      rw [release_held held] at counted ⊢
      have changed : ({ owners := b.owners.filter fun o => o ≠ owner } : BusyIndicator ω).holders ≠
          b.holders := by
        intro same
        have there := (mem_holders b owner).mpr held
        rw [← same] at there
        simp [holders] at there
      rw [told_changed b counted changed, isBusy_of_holds held]
      dsimp only
      cases ({ owners := b.owners.filter fun o => o ≠ owner } : BusyIndicator ω).isBusy <;> rfl
    · rw [release_free held, told_same]

end Calls

theorem run_events (calls : List (BusyStep ω)) :
    ((run {} calls) : BusyIndicator ω × _).2 =
      (List.range calls.length).flatMap fun n => told (holding (calls.take n)) (holding (calls.take (n + 1))) := by
  induction calls using List.reverseRecOn with
  | nil => rfl
  | append_singleton calls call ih =>
    have distinct : ((run {} calls).1 : BusyIndicator ω).owners.Nodup := run_nodup List.nodup_nil calls
    have later : ((run {} calls).1.run [call]).2 = told (holding calls) (holding (calls ++ [call])) := by
      have single : (run {} calls).1.run [call] = (run {} calls).1.perform call := by
        simp [run]
      have after : (run {} (calls ++ [call])).1 = ((run {} calls).1.perform call).1 := by
        rw [run_append, single]
      rw [single, perform_events _ call distinct, ← after, holders_run, holders_run]
    have earlier : ∀ n ∈ List.range calls.length, told (holding ((calls ++ [call]).take n))
        (holding ((calls ++ [call]).take (n + 1))) =
          told (holding (calls.take n)) (holding (calls.take (n + 1))) := by
      intro n below
      have small : n < calls.length := List.mem_range.mp below
      rw [List.take_append_of_le_length (Nat.le_of_lt small), List.take_append_of_le_length small]
    rw [run_append, List.length_append, List.length_singleton, List.range_succ, List.flatMap_append,
      List.flatMap_singleton, List.flatMap_congr earlier, ← ih, later]
    simp [List.take_of_length_le]

-- Whatever is called, the indicator is held by the owners whose last call with an effect acquired it, each
-- once. Each call that changes who they are, and no other, is told of by their number, followed by the busy
-- state where there were none before or are none left; so the busy states alternate from true on and end
-- with that of the indicator.
theorem holders_told (calls : List (BusyStep ω)) :
    let last : BusyIndicator ω × List BusyEvent := run {} calls
    (∀ owner, owner ∈ last.1.owners ↔ lastAcquired owner calls = true) ∧ last.1.owners.Nodup ∧
    last.2 = ((List.range calls.length).flatMap fun n =>
      told (holding (calls.take n)) (holding (calls.take (n + 1)))) ∧
    Alternates false (last.2.filterMap BusyEvent.busy?) last.1.isBusy := by
  intro last
  refine ⟨fun owner => ?_, run_nodup List.nodup_nil calls, run_events calls, run_told {} calls⟩
  rw [← holds_iff, ← mem_holders, ← mem_holding]
  exact iff_of_eq (congrArg (owner ∈ ·) (holders_run calls))

-- One owner asks twice, and one gives back what it does not hold.
example : (run {} [.acquire 1, .acquire 2, .acquire 1, .release 3, .release 1, .release 2]).2 =
    [.count 1, .busy true, .count 2, .count 1, .count 0, .busy false] := by decide

end BusyIndicator

end PagedTable
