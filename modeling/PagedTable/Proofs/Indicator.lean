import PagedTable.Busy

namespace PagedTable

-- Values told one after the other, each of which turns the state around, from a first state to a last.
inductive Alternates : Bool → List Bool → Bool → Prop where
  | none : Alternates state [] state
  | turn (later : Alternates (!state) told last) : Alternates state ((!state) :: told) last

namespace Alternates

theorem append {first middle last : Bool} {told more : List Bool} (one : Alternates first told middle)
    (two : Alternates middle more last) : Alternates first (told ++ more) last := by
  induction one with
  | none => exact two
  | turn _ ih => exact .turn (ih two)

theorem one (state : Bool) : Alternates (!state) [state] state := by
  have turned : Alternates (!state) [!!state] (!!state) := .turn .none
  rwa [Bool.not_not] at turned

end Alternates

def BusyEvent.busy? : BusyEvent → Option Bool
  | .busy b => some b
  | .count _ => none

namespace BusyIndicator

variable {ω : Type} [DecidableEq ω]

theorem run_append (b : BusyIndicator ω) (steps more : List (BusyStep ω)) :
    b.run (steps ++ more) =
      (((b.run steps).1.run more).1, (b.run steps).2 ++ ((b.run steps).1.run more).2) := by
  induction steps generalizing b with
  | nil => rfl
  | cons step rest ih => simp only [List.cons_append, run, ih, List.append_assoc]

section Steps

variable {b : BusyIndicator ω} {owner : ω}

theorem holds_iff : b.holds owner = true ↔ owner ∈ b.owners := by simp [holds]

theorem acquire_held (held : b.holds owner = true) : b.acquire owner = (b, []) := if_pos held

theorem acquire_free (free : ¬ b.holds owner = true) : b.acquire owner =
    ({ owners := b.owners ++ [owner] },
      .count (b.owners ++ [owner]).length :: if b.isBusy then [] else [.busy true]) := if_neg free

theorem release_held (held : b.holds owner = true) : b.release owner =
    let next : BusyIndicator ω := { owners := b.owners.filter fun o => o ≠ owner }
    (next, .count next.count :: if next.isBusy then [] else [.busy false]) := if_pos held

theorem release_free (free : ¬ b.holds owner = true) : b.release owner = (b, []) := if_neg free

theorem isBusy_of_holds (held : b.holds owner = true) : b.isBusy = true := by
  have some : b.owners ≠ [] := List.ne_nil_of_mem (holds_iff.mp held)
  simpa [isBusy] using some

end Steps

theorem perform_nodup {b : BusyIndicator ω} (distinct : b.owners.Nodup) (step : BusyStep ω) :
    (b.perform step).1.owners.Nodup := by
  cases step with
  | acquire owner =>
    change (b.acquire owner).1.owners.Nodup
    by_cases held : b.holds owner = true
    · rw [acquire_held held]
      exact distinct
    · rw [acquire_free held]
      have new : owner ∉ b.owners := fun member => held (holds_iff.mpr member)
      refine List.nodup_append.mpr ⟨distinct, by simp, fun o there p last => ?_⟩
      rintro rfl
      cases List.mem_singleton.mp last
      exact new there
  | release owner =>
    change (b.release owner).1.owners.Nodup
    by_cases held : b.holds owner = true
    · rw [release_held held]
      exact distinct.filter _
    · rw [release_free held]
      exact distinct

theorem perform_told (b : BusyIndicator ω) (step : BusyStep ω) :
    Alternates b.isBusy ((b.perform step).2.filterMap BusyEvent.busy?) (b.perform step).1.isBusy := by
  cases step with
  | acquire owner =>
    change Alternates _ ((b.acquire owner).2.filterMap _) (b.acquire owner).1.isBusy
    by_cases held : b.holds owner = true
    · rw [acquire_held held]
      exact .none
    · rw [acquire_free held]
      have next : ({ owners := b.owners ++ [owner] } : BusyIndicator ω).isBusy = true := by simp [isBusy]
      dsimp only
      rw [next]
      cases b.isBusy with
      | true => exact .none
      | false => exact .one true
  | release owner =>
    change Alternates _ ((b.release owner).2.filterMap _) (b.release owner).1.isBusy
    by_cases held : b.holds owner = true
    · rw [release_held held, isBusy_of_holds held]
      dsimp only
      generalize ({ owners := b.owners.filter fun o => o ≠ owner } : BusyIndicator ω) = next
      cases next.isBusy with
      | true => exact .none
      | false => exact .one false
    · rw [release_free held]
      exact .none

theorem run_nodup {b : BusyIndicator ω} (distinct : b.owners.Nodup) (steps : List (BusyStep ω)) :
    (b.run steps).1.owners.Nodup := by
  induction steps generalizing b with
  | nil => exact distinct
  | cons step rest ih => exact ih (perform_nodup distinct step)

theorem run_told (b : BusyIndicator ω) (steps : List (BusyStep ω)) :
    Alternates b.isBusy ((b.run steps).2.filterMap BusyEvent.busy?) (b.run steps).1.isBusy := by
  induction steps generalizing b with
  | nil => exact .none
  | cons step rest ih =>
    simp only [run, List.filterMap_append]
    exact (perform_told b step).append (ih _)

end BusyIndicator

end PagedTable
