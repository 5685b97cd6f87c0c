import PagedTable.Proofs.FilterWrites
import PagedTable.Proofs.UnreportedChanges

namespace PagedTable

theorem Value.allKeyed_texts (texts : List String) : allKeyed (texts.map .text) = true := by
  induction texts with
  | nil => rfl
  | cons s rest ih => simp [allKeyed, isKeyed, ih]

theorem FilterDef.isKeyed_normalize {d : FilterDef} {v w : Value} (keyed : v.isKeyed = true)
    (taken : d.normalize v = .ok w) : w.isKeyed = true := by
  cases normalize_normal taken with
  | null => rfl
  | text => rfl
  | date _ dated => cases w <;> first | rfl | cases dated
  | @texts texts =>
    rw [Value.isKeyed]
    exact Value.allKeyed_texts texts
  | range kind first last =>
    cases v <;> simp [normalize, kind, refuse] at taken
    rw [← taken.1, ← taken.2]
    exact keyed

namespace FilterState

-- Every filter has a value, and the values stand in the order of the definitions.
def Aligned (s : FilterState) : Prop := (s.values.map fun e => e.1) = s.defs.map fun e => e.1

def fresh (s : FilterState) : FilterState :=
  { s with values := s.defs.map fun e => (e.1, e.2.initial) }

variable {s t : FilterState} {d : FilterDef} {ds : List FilterDef} {id : String} {v value : Value}
  {op : FilterOperation}

theorem Keyed.known_written (keyed : s.Keyed) (kept : ∀ d, op ≠ .addDef d) {w : String × Value}
    (member : w ∈ s.written op) : w.1 ∈ s.defs.map fun e => e.1 := by
  cases op with
  | set id value =>
    obtain ⟨d, found, -⟩ := keyed.mem_written member
    exact List.mem_map_of_mem (f := fun e => e.1) (Entries.mem_of_get? found)
  | addDef d => exact absurd rfl (kept d)
  | reset =>
    obtain ⟨d, known, own, -⟩ := mem_defaults member
    obtain ⟨e, among, rfl⟩ := List.mem_map.mp known
    rw [← own, keyed.named e among]
    exact List.mem_map_of_mem among

theorem Aligned.perform (aligned : s.Aligned) (keyed : s.Keyed) (kept : ∀ d, op ≠ .addDef d) :
    (s.perform op).1.Aligned := by
  unfold Aligned
  rw [perform_values, perform_defs kept, ← aligned]
  apply Entries.keys_putAll
  intro w member
  rw [aligned]
  exact keyed.known_written kept member

theorem addDef_fitting (fit : d.fits = true) (s : FilterState) :
    s.addDef d = ({ defs := Entries.put d.id d s.defs, values := Entries.put d.id d.initial s.values }, .ok ()) := by
  unfold addDef
  rw [normalize_of_fits fit]
  rfl

theorem addDefs_fitting (fit : ∀ d ∈ ds, d.fits = true) (s : FilterState) :
    s.addDefs ds = ({
      defs := Entries.putAll (ds.map fun d => (d.id, d)) s.defs
      values := Entries.putAll (ds.map fun d => (d.id, d.initial)) s.values }, .ok ()) := by
  induction ds generalizing s with
  | nil => rfl
  | cons d rest ih =>
    obtain ⟨first, others⟩ := List.forall_mem_cons.mp fit
    rw [addDefs, addDef_fitting first]
    exact ih others _

theorem Aligned.addDef (aligned : s.Aligned) (fit : d.fits = true) : (s.addDef d).1.Aligned := by
  rw [addDef_fitting fit]
  exact Entries.keys_put_congr aligned

theorem addDef_fits (done : s.addDef d = (t, .ok ())) : d.fits = true := by
  by_contra unfit
  cases default : d.normalize d.default with
  | ok v => exact unfit (fits_of_default default)
  | error e => simp [FilterState.addDef, default] at done

theorem Aligned.addDefs (aligned : s.Aligned) (done : s.addDefs ds = (t, .ok ())) : t.Aligned := by
  induction ds generalizing s with
  | nil =>
    cases done
    exact aligned
  | cons d rest ih =>
    unfold FilterState.addDefs at done
    split at done
    · rename_i u added
      have next := aligned.addDef (addDef_fits added)
      rw [added] at next
      exact ih next done
    · cases done

theorem Made.aligned (made : Made s) : s.Aligned := by
  induction made with
  | @declared ds s made =>
    unfold ofDefs at made
    split at made
    · rename_i t declared
      cases made
      have empty : FilterState.empty.Aligned := rfl
      exact empty.addDefs declared
    · cases made
  | added _ done ih =>
    have next := ih.addDef (addDef_fits done)
    rwa [done] at next
  | @set s value t changed before id done ih =>
    have next : (s.perform (.set id value)).1.Aligned := ih.perform (.of_sound before.sound) (by simp)
    rwa [perform, done] at next
  | @reset s t changed before done ih =>
    have next : (s.perform .reset).1.Aligned := ih.perform (.of_sound before.sound) (by simp)
    rwa [perform, done] at next

theorem Sound.fits (sound : s.Sound) : ∀ e ∈ s.defs, e.2.fits = true := by
  intro e member
  obtain ⟨v, default⟩ := sound.restorable e member
  exact fits_of_default default

theorem Keyed.initials (keyed : s.Keyed) :
    (s.defs.map fun e => e.2).map (fun d => (d.id, d.initial)) = s.fresh.values := by
  rw [List.map_map]
  apply List.map_congr_left
  intro e member
  simp [keyed.named e member]

theorem ofDefs_fresh (keyed : s.Keyed) (fit : ∀ e ∈ s.defs, e.2.fits = true) :
    ofDefs (s.defs.map fun e => e.2) = .ok s.fresh := by
  have named : (s.defs.map fun e => e.2).map (fun d => (d.id, d)) = s.defs := by
    have own : ∀ e ∈ s.defs, ((fun d => (d.id, d)) ∘ fun e => e.2) e = id e :=
      fun e member => Prod.ext (keyed.named e member) rfl
    rw [List.map_map, List.map_congr_left own, List.map_id]
  have distinct : (s.fresh.values.map fun e => e.1).Nodup := by
    simpa [fresh, Function.comp_def] using keyed.distinct
  unfold ofDefs
  rw [addDefs_fitting (List.forall_mem_map.mpr fit), named, keyed.initials]
  simp only [empty]
  rw [Entries.putAll_apart (by simpa using keyed.distinct), Entries.putAll_apart (by simpa using distinct)]
  rfl

theorem reset_fresh (keyed : s.Keyed) (fit : ∀ e ∈ s.defs, e.2.fits = true) (aligned : s.Aligned) :
    s.reset.1 = s.fresh := by
  have defs : s.reset.1.defs = s.fresh.defs := reset_restoring.defs
  have values : s.reset.1.values = s.fresh.values := by
    rw [show s.reset.1.values = _ from perform_values s .reset, written,
      defaults_fitting (List.forall_mem_map.mpr fit), keyed.initials]
    apply Entries.putAll_covering
    · simpa [fresh, Function.comp_def] using keyed.distinct
    · simpa [fresh, Aligned, Function.comp_def] using aligned
  generalize s.reset.1 = t at defs values
  cases t
  cases defs
  cases values
  rfl

theorem resetEach_reports (changed : Bool) {rest : List (String × FilterDef)}
    (fit : ∀ e ∈ rest, e.2.fits = true) (apart : (rest.map fun e => e.2.id).Nodup) :
    ∃ now, (s.resetEach changed rest).2 = .ok now ∧ (now = true ↔ changed = true ∨
      ∃ e ∈ rest, (s.stored e.2.id).effective.same e.2.initial.effective = false) := by
  induction rest generalizing s changed with
  | nil => exact ⟨changed, rfl, by simp⟩
  | cons e rest ih =>
    obtain ⟨id, d⟩ := e
    obtain ⟨first, others⟩ := List.forall_mem_cons.mp fit
    simp only [List.map_cons, List.nodup_cons] at apart
    obtain ⟨now, returned, reports⟩ := ih (s := s.store d.id d.initial)
      (changed || !(s.stored d.id).effective.same d.initial.effective) others apart.2
    refine ⟨now, ?_, ?_⟩
    · unfold resetEach
      rw [normalize_of_fits first]
      exact returned
    · -- ids are apart, so a filter is found as it was however many were restored before
      have kept : ∀ e ∈ rest, (s.store d.id d.initial).stored e.2.id = s.stored e.2.id := by
        intro e member
        apply stored_store_other
        intro same
        exact apart.1 (same ▸ List.mem_map_of_mem member)
      rw [reports, Bool.or_eq_true, Bool.not_eq_true', or_assoc]
      simp only [List.mem_cons, exists_eq_or_imp]
      apply or_congr_right
      apply or_congr_right
      apply exists_congr
      intro e
      apply and_congr_right
      intro member
      rw [kept e member]

theorem Keyed.ids (keyed : s.Keyed) : (s.defs.map fun e => e.2.id) = s.defs.map fun e => e.1 :=
  List.map_congr_left keyed.named

theorem Keyed.stored_fresh (keyed : s.Keyed) {e : String × FilterDef} (member : e ∈ s.defs) :
    s.fresh.stored e.2.id = e.2.initial := by
  apply stored_eq
  apply Entries.get?_of_mem
  · simpa [fresh, Function.comp_def] using keyed.distinct
  · rw [keyed.named e member]
    exact List.mem_map_of_mem (f := fun e => (e.1, e.2.initial)) member

theorem snapshot_eq (s : FilterState) : s.snapshot =
    (s.defs.filter fun e => s.isSet e.2.id).map fun e => (e.2.id, s.stored e.2.id) := by
  rw [snapshot, active, List.map_map]
  rfl

theorem Keyed.snapshot_distinct (keyed : s.Keyed) : (s.snapshot.map fun e => e.1).Nodup := by
  have distinct : (s.defs.map fun e => e.2.id).Nodup := keyed.ids ▸ keyed.distinct
  rw [snapshot_eq, List.map_map]
  exact distinct.sublist (List.filter_sublist.map _)

theorem Keyed.get?_snapshot (keyed : s.Keyed) {e : String × FilterDef} (member : e ∈ s.defs) :
    Entries.get? e.2.id s.snapshot = if s.isSet e.2.id then some (s.stored e.2.id) else none := by
  split
  · rename_i isSet
    apply Entries.get?_of_mem keyed.snapshot_distinct
    have kept : e ∈ s.defs.filter fun e => s.isSet e.2.id := List.mem_filter.mpr ⟨member, isSet⟩
    rw [snapshot_eq]
    exact List.mem_map_of_mem (f := fun e => (e.2.id, s.stored e.2.id)) kept
  · rename_i unset
    rw [Entries.get?_eq_none, snapshot_eq, List.map_map]
    intro listed
    obtain ⟨f, kept, same⟩ := List.mem_map.mp listed
    have isSet := (List.mem_filter.mp kept).2
    exact unset (show s.isSet e.2.id = true from same ▸ isSet)

theorem Keyed.snapshot_same_iff (keyed : s.Keyed) (defs : t.defs = s.defs) :
    (Value.map s.snapshot).same (.map t.snapshot) = true ↔
      ∀ e ∈ s.defs, (s.stored e.2.id).effective.same (t.stored e.2.id).effective = true := by
  have keyed' : t.Keyed := keyed.of_defs defs
  constructor
  · intro same e member
    obtain ⟨absent, equal⟩ := Value.same_map keyed.snapshot_distinct same e.2.id
    rw [keyed.get?_snapshot member, keyed'.get?_snapshot (defs ▸ member)] at absent equal
    cases unset : (s.stored e.2.id).unset <;> cases unset' : (t.stored e.2.id).unset <;>
      simp [isSet, unset, unset', Value.effective, Value.same] at absent equal ⊢
    exact equal
  · intro alike
    have active : ∀ e ∈ s.defs, s.isSet e.2.id = t.isSet e.2.id := by
      intro e member
      rw [isSet, isSet, Value.unset_same (alike e member)]
    have kept : (s.defs.filter fun e => s.isSet e.2.id) = t.defs.filter fun e => t.isSet e.2.id := by
      rw [defs]
      exact List.filter_congr active
    rw [Value.same, Bool.and_eq_true, beq_iff_eq]
    constructor
    · simp [snapshot_eq, kept]
    · apply Value.fieldsIn_of_get?
      intro f member
      rw [snapshot_eq] at member
      obtain ⟨e, known, rfl⟩ := List.mem_map.mp member
      obtain ⟨known, isSet⟩ := List.mem_filter.mp known
      have isSet' : t.isSet e.2.id = true := active e known ▸ isSet
      refine ⟨t.stored e.2.id, ?_, ?_⟩
      · rw [keyed'.get?_snapshot (defs ▸ known), if_pos isSet']
      · apply Value.same_of_effective (alike e known)
        simpa [FilterState.isSet] using isSet'

-- Where nothing was refused, restoring all filters leaves the state that their definitions make anew. It
-- reports if the snapshot is another one then, and has nothing to report if it is done again: of the
-- defaults this takes only that every map has each key once.
theorem reset_renews (made : s.Made) :
    ∃ t changed, s.reset = (t, .ok changed) ∧ ofDefs (s.defs.map fun e => e.2) = .ok t ∧
      (changed = true ↔ (Value.map s.snapshot).same (.map t.snapshot) = false) ∧
      ((∀ e ∈ s.defs, e.2.default.isKeyed = true) → t.reset = (t, .ok false)) := by
  have sound := made.sound
  have keyed : s.Keyed := .of_sound sound
  have ids : (s.defs.map fun e => e.2.id).Nodup := keyed.ids ▸ keyed.distinct
  have left := reset_fresh keyed sound.fits made.aligned
  obtain ⟨changed, returned, reports⟩ := resetEach_reports (s := s) false sound.fits ids
  refine ⟨s.fresh, changed, Prod.ext left returned, ofDefs_fresh keyed sound.fits, ?_, ?_⟩
  · rw [← Bool.not_eq_true, keyed.snapshot_same_iff (t := s.fresh) rfl, reports]
    simp only [Bool.false_eq_true, false_or, not_forall, exists_prop, Bool.not_eq_true]
    apply exists_congr
    intro e
    apply and_congr_right
    intro member
    rw [keyed.stored_fresh member]
  · intro real
    have aligned : s.fresh.Aligned := by simp [fresh, Aligned, Function.comp_def]
    have again : s.fresh.reset.1 = s.fresh := reset_fresh (keyed.of_defs rfl) sound.fits aligned
    obtain ⟨changed', returned', reports'⟩ := resetEach_reports (s := s.fresh) false sound.fits ids
    have unreported : changed' = false := by
      rw [← Bool.not_eq_true, reports']
      rintro (no | ⟨e, member, differs⟩)
      · cases no
      · have taken := normalize_of_fits (sound.fits e member)
        have own := Value.same_of_keyed _ (FilterDef.isKeyed_normalize (real e member) taken)
        rw [keyed.stored_fresh member, effective_same own] at differs
        cases differs
    rw [unreported] at returned'
    exact Prod.ext again returned'

def visits (city : Value) : FilterState where
  defs := [("city", { id := "city", default := .text " Cluj " }),
    ("status", { id := "status", kind := .dropdown, multiple := true, default := .list [.text "open", .text "new"] })]
  values := [("city", city), ("status", .tuple [.text "new", .text "open"])]

theorem visits_renewed : (visits .null).Made ∧ (∀ e ∈ (visits .null).defs, e.2.default.isKeyed = true) ∧
    (visits .null).reset = (visits (.text "Cluj"), .ok true) ∧
    ofDefs ((visits .null).defs.map fun e => e.2) = .ok (visits (.text "Cluj")) ∧
    (visits (.text "Cluj")).reset = (visits (.text "Cluj"), .ok false) := by
  have declared : (visits (.text "Cluj")).Made :=
    .declared (show ofDefs ((visits .null).defs.map fun e => e.2) = _ from rfl)
  have cleared : (visits (.text "Cluj")).set "city" .null = (visits .null, .ok true) :=
    set_other rfl rfl (by decide +kernel) rfl
  have made : (visits .null).Made := declared.set cleared
  have real : ∀ e ∈ (visits .null).defs, e.2.default.isKeyed = true := by
    intro e member
    simp only [visits, List.mem_cons, List.not_mem_nil, or_false] at member
    rcases member with rfl | rfl <;> rfl
  obtain ⟨t, changed, restored, anew, reports, again⟩ := reset_renews made
  have same : t = visits (.text "Cluj") := by
    have made' : ofDefs ((visits .null).defs.map fun e => e.2) = .ok (visits (.text "Cluj")) := rfl
    rw [anew] at made'
    exact Except.ok.inj made'
  subst same
  have differs : changed = true := reports.mpr (by decide +kernel)
  subst differs
  exact ⟨made, real, restored, anew, again real⟩

end FilterState

end PagedTable
