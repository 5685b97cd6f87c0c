import Mathlib.Data.Set.Card
import PagedTable.Proofs.ClosedTable

namespace PagedTable

def Event.busyChanged? : Event → Option Bool
  | .signal _ (.busyChanged busy) => some busy
  | _ => none

def announcements (events : List Event) : List Bool := (events.filterMap Event.busyChanged?).reverse

namespace Strand
open Application

variable {key : Nat} {s s' : Strand}

theorem Move.announces (move : Move key s s') :
    ∃ told, announcements s'.events = announcements s.events ++ told ∧
      Alternates s.table.busy told s'.table.busy := by
  have silent {events : List Event} (same : events.filterMap Event.busyChanged? =
      s.events.filterMap Event.busyChanged?) : announcements events = announcements s.events ++ [] := by
    rw [List.append_nil]
    exact congrArg List.reverse same
  cases move with
  | opened unused view bare numbered keep =>
    refine ⟨[], silent rfl, ?_⟩
    rw [unused]
    exact .none
  | @note _ e own quiet =>
    refine ⟨[], silent (List.filterMap_cons_none ?_), .none⟩
    cases e with
    | signal k signal => cases signal <;> first | rfl | cases quiet
    | _ => rfl
  | recount top =>
    by_cases same : isWaiting s.table = s.table.busy
    · refine ⟨[], silent ?_, ?_⟩ <;> dsimp only [doing] <;> rw [recounted_same same]
      · rfl
      · exact .none
    · have turned : s.table.busy = !isWaiting s.table := by
        cases busy : s.table.busy <;> cases waits : isWaiting s.table <;> simp_all
      refine ⟨[isWaiting s.table], ?_, ?_⟩ <;> dsimp only [doing] <;> rw [recounted_changed same]
      · exact List.reverse_cons
      · rw [turned]
        exact .one _
  | _ => exact ⟨[], silent rfl, .none⟩

theorem Path.announces (path : Path key {} s) :
    Alternates false (announcements s.events) s.table.busy := by
  induction path with
  | refl => exact .none
  | tail _ move ih =>
    obtain ⟨told, more, alternates⟩ := move.announces
    rw [more]
    exact ih.append alternates

end Strand

namespace Application
open Strand

variable {w : Application}

def eventsOf (w : Application) (key : Nat) : List Event := w.journal.filter fun e => e.key? = some key

-- The indicator has come to what it is in a run of its own, which told all that was told of it.
theorem Reached.indicator (reached : Reached w) :
    ∃ steps, w.indicator = (BusyIndicator.run {} steps).1 ∧ w.told = (BusyIndicator.run {} steps).2 := by
  obtain ⟨workspace, modes, woven⟩ := reached.woven
  obtain ⟨steps, indicator, told⟩ := woven.grows.shared
  exact ⟨steps, indicator, told⟩

-- The busy tables hold the indicator, each once, so it counts them and is busy where some table is. The
-- busy states that a table announces alternate from true on and end with that of the table, and so do
-- those of the indicator.
theorem indicator_agrees (reached : Reached w) :
    (∀ key, key ∈ w.indicator.owners ↔ (w.table key).busy = true) ∧ w.indicator.owners.Nodup ∧
    w.indicator.count = Set.ncard {key | (w.table key).busy = true} ∧
    (∀ key, Alternates false (announcements (w.eventsOf key)) (w.table key).busy) ∧
    Alternates false (w.told.filterMap BusyEvent.busy?) w.indicator.isBusy ∧
    (w.indicator.isBusy = true ↔ ∃ key, (w.table key).busy = true) := by
  have held (key : Nat) : key ∈ w.indicator.owners ↔ (w.table key).busy = true := by
    rw [← BusyIndicator.holds_iff]
    exact iff_of_eq (congrArg (· = true) (Path.holds (reached.path key)))
  obtain ⟨steps, indicator, told⟩ := reached.indicator
  have distinct : w.indicator.owners.Nodup := by
    rw [indicator]
    exact BusyIndicator.run_nodup List.nodup_nil steps
  refine ⟨held, distinct, ?_, fun key => Path.announces (reached.path key), ?_, ?_⟩
  · have busy : {key | (w.table key).busy = true} = (w.indicator.owners.toFinset : Set Nat) := by
      ext key
      simp [held key]
    rw [busy, Set.ncard_coe_finset, List.toFinset_card_of_nodup distinct]
    rfl
  · rw [told, indicator]
    exact BusyIndicator.run_told {} steps
  · have some : w.indicator.isBusy = true ↔ ∃ key, key ∈ w.indicator.owners := by
      rw [BusyIndicator.isBusy, Bool.not_eq_true', List.isEmpty_eq_false_iff_exists_mem]
    simp only [some, held]

-- Two tables load at the same time. A subscriber of the first closes the second, whose page is still
-- outstanding; then the first mutates.
def nested : Application :=
  let close : Callback Step := { name := "close", steps := [.table 1 .close] }
  let both := (openTable 1 { plan := {} }).after (opened { plan := {} })
  both.played 3
    [.table 0 (.reload none), .subscribe 0 (some close), .table 1 .refresh,
      .complete 0 (.page [] none), .table 0 (.create .null .nothing)]

theorem nested_reached : Reached nested := by
  have fresh : Entries.get? 1 (opened { plan := {} }).tables = none :=
    Option.isNone_iff_eq_none.mp (by decide +kernel)
  exact (Reached.opened (opened_reached _) fresh _).played 3 _

theorem nested_agrees :
    Reached nested ∧ nested.indicator.owners = [0] ∧
      Set.ncard {key | (nested.table key).busy = true} = 1 ∧
      announcements (nested.eventsOf 0) = [true, false, true] ∧
      announcements (nested.eventsOf 1) = [true, false] ∧
      nested.told.filterMap BusyEvent.busy? = [true, false, true] := by
  obtain ⟨-, -, count, -⟩ := indicator_agrees nested_reached
  have owners : nested.indicator.owners = [0] := by decide +kernel
  refine ⟨nested_reached, owners, ?_, by decide +kernel, by decide +kernel, by decide +kernel⟩
  rw [← count, BusyIndicator.count, owners]
  rfl

end Application

end PagedTable
